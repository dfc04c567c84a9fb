import RedisBridge.EffectivePolicy
import RedisBridge.TrimmedText
import RedisBridge.Utf8Text

/-!
What is validated for `SCRIPT` against what is sent. The subcommand and the mode
are judged in their normal form, trimmed and in upper case, and sent as they were
written. Redis reads them in any case and trims nothing, so the two readings
agree when nothing was trimmed.
-/
namespace RedisBridge.ScriptForwarding

open Commands EffectivePolicy Fallible RustText Security TokenType TrimmedText Utf8Text

/-- `toupper` on a byte. -/
def upperByte (b : UInt8) : UInt8 := if 97 ≤ b ∧ b ≤ 122 then b - 32 else b

theorem upperByte_of_high (b : UInt8) (h : 128 ≤ b.toNat) : upperByte b = b := by
  unfold upperByte
  rw [if_neg]
  intro hletter
  have hlast : b.toNat ≤ 122 := UInt8.le_iff_toNat_le.mp hletter.2
  omega

theorem toUpper_of_high (c : Char) (h : 127 < c.toNat) : c.toUpper = c := by
  unfold Char.toUpper
  rw [dif_neg]
  intro hletter
  have hlast : c.toNat ≤ 122 := UInt32.le_iff_toNat_le.mp hletter.2
  omega

/-- Upper case is the same for a character and for its bytes. -/
theorem map_upperByte_utf8EncodeChar (c : Char) :
    (String.utf8EncodeChar c).map upperByte = String.utf8EncodeChar c.toUpper := by
  by_cases hascii : c.toNat < 128
  · exact of_ascii (fun c => (String.utf8EncodeChar c).map upperByte =
      String.utf8EncodeChar c.toUpper) (by decide) c hascii
  · have hsame : ∀ b ∈ String.utf8EncodeChar c, upperByte b = id b := by
      intro b hb
      exact upperByte_of_high b (high_of_mem_utf8EncodeChar c (by omega) b hb)
    rw [List.map_congr_left hsame, List.map_id, toUpper_of_high c (by omega)]

theorem map_upperByte_asBytes (s : String) :
    (asBytes s).map upperByte = asBytes (toAsciiUppercase s) := by
  rw [asBytes_eq_flatMap, asBytes_eq_flatMap, toAsciiUppercase, String.toList_ofList,
    List.map_flatMap, List.flatMap_map]
  congr 1
  funext c
  exact map_upperByte_utf8EncodeChar c

/-- Redis's reading of a keyword: in any case, with nothing trimmed. -/
def ReadsAs (bytes : List UInt8) (word : String) : Prop := bytes.map upperByte = asBytes word

instance readsAsDecidable (bytes : List UInt8) (word : String) : Decidable (ReadsAs bytes word) :=
  inferInstanceAs (Decidable (bytes.map upperByte = asBytes word))

theorem readsAs_asBytes (s word : String) :
    ReadsAs (asBytes s) word ↔ toAsciiUppercase s = word := by
  unfold ReadsAs
  rw [map_upperByte_asBytes]
  constructor
  · exact asBytes_injective _ _
  · intro h
    rw [h]

/-- The bridge's reading of a keyword: a string with that normal form. -/
def NormalisesTo (arg : CommandArg) (word : String) : Prop :=
  arg.asCommandName.map normalise = some word

def FlushModes {α : Type} (reads : α → String → Prop) (modes : List α) : Prop :=
  modes = [] ∨ ∃ mode, modes = [mode] ∧ (reads mode "SYNC" ∨ reads mode "ASYNC")

/-- The arguments of `SCRIPT` that a ratelimit token may send. -/
def ScriptShape {α : Type} (reads : α → String → Prop) : List α → Prop
  | [] => False
  | subcommand :: rest =>
      (reads subcommand "LOAD" ∧ rest.length = 1) ∨
      (reads subcommand "EXISTS" ∧ 1 ≤ rest.length) ∨
      (reads subcommand "FLUSH" ∧ FlushModes reads rest)

/-- Nothing is trimmed from a string. -/
def Tight (arg : CommandArg) : Prop := ∀ s, arg = .string s → trim s = s

/-- Nothing is trimmed from the subcommand, nor from the mode of `FLUSH`. -/
def TightKeywords : List CommandArg → Prop
  | _ :: subcommand :: rest =>
      Tight subcommand ∧ (NormalisesTo subcommand "FLUSH" → ∀ mode ∈ rest, Tight mode)
  | _ => True

/-! The check accepts the arrays of that shape. -/

theorem validateFlushMode_eq_ok (name subcommand : CommandArg) (rest : List CommandArg) :
    validateFlushMode (name :: subcommand :: rest) = .ok () ↔
      FlushModes NormalisesTo rest := by
  unfold validateFlushMode FlushModes
  rw [check_eq_ok, bailIf_eq_ok, not_lt]
  cases rest with
  | nil => simp [pure_eq_ok]
  | cons mode more =>
    simp only [List.length_cons, List.getElem?_cons_succ, List.getElem?_cons_zero, bind_eq_ok,
      okOr_eq_ok, bailIf_eq_ok, NormalisesTo, reduceCtorEq, false_or, List.cons.injEq]
    constructor
    · intro h
      obtain ⟨hlength, word, hword, hmode⟩ := h
      have hmore : more = [] := List.length_eq_zero_iff.mp (by omega)
      refine ⟨mode, ⟨rfl, hmore⟩, ?_⟩
      rw [hword, Option.some.injEq, Option.some.injEq]
      by_contra hneither
      exact hmode (not_or.mp hneither)
    · intro h
      obtain ⟨_, ⟨rfl, rfl⟩, hmode⟩ := h
      refine ⟨by simp, ?_⟩
      rcases hmode with hsync | hasync
      · exact ⟨"SYNC", hsync, fun h => h.1 rfl⟩
      · exact ⟨"ASYNC", hasync, fun h => h.2 rfl⟩

theorem validateSubcommand_eq_ok (name : CommandArg) (args : List CommandArg) :
    validateSubcommand (name :: args) = .ok () ↔ ScriptShape NormalisesTo args := by
  cases args with
  | nil => simp [validateSubcommand, ScriptShape, bind_eq_ok, okOr]
  | cons subcommand rest =>
    have hget : (name :: subcommand :: rest)[1]? = some subcommand := rfl
    unfold validateSubcommand ScriptShape
    simp only [bind_eq_ok, okOr_eq_ok, hget, Option.bind_some]
    constructor
    · intro h
      obtain ⟨word, hword, hcheck⟩ := h
      split_ifs at hcheck with hload hexists hflush hblocked
      · rw [bailIf_eq_ok, not_not] at hcheck
        exact Or.inl ⟨hload ▸ hword, by simpa using hcheck⟩
      · rw [bailIf_eq_ok, not_lt] at hcheck
        refine Or.inr (Or.inl ⟨hexists ▸ hword, ?_⟩)
        rw [List.length_cons, List.length_cons] at hcheck
        omega
      · exact Or.inr (Or.inr ⟨hflush ▸ hword, (validateFlushMode_eq_ok _ _ _).mp hcheck⟩)
    · intro h
      rcases h with ⟨hword, hlength⟩ | ⟨hword, hlength⟩ | ⟨hword, hmode⟩
      · refine ⟨"LOAD", hword, ?_⟩
        rw [if_pos rfl, bailIf_eq_ok, List.length_cons, List.length_cons]
        omega
      · refine ⟨"EXISTS", hword, ?_⟩
        rw [if_neg (by decide), if_pos rfl, bailIf_eq_ok, List.length_cons, List.length_cons]
        omega
      · refine ⟨"FLUSH", hword, ?_⟩
        rw [if_neg (by decide), if_neg (by decide), if_pos rfl, validateFlushMode_eq_ok]
        exact hmode

/-! The two readings of one argument. -/

theorem isWhitespace_of_toUpper (c : Char) (h : isCapital c.toUpper = true) :
    isWhitespace c = false := by
  unfold Char.toUpper at h
  split at h
  · next hletter =>
    have hfirst : 97 ≤ c.toNat := UInt32.le_iff_toNat_le.mp hletter.1
    have hlast : c.toNat ≤ 122 := UInt32.le_iff_toNat_le.mp hletter.2
    exact isWhitespace_of_letter c (by omega)
  · exact isWhitespace_of_isCapital c h

/-- Redis reads a string as a keyword when the bridge does and trims nothing. -/
theorem readsAs_iff_normalise (s word : String) (hword : word.toList.all isCapital = true) :
    ReadsAs (asBytes s) word ↔ normalise s = word ∧ trim s = s := by
  rw [readsAs_asBytes]
  constructor
  · intro h
    have hclear : trim s = s := by
      apply trimMatches_of_clear
      apply clear_of_forall
      intro c hc
      apply isWhitespace_of_toUpper
      apply List.all_eq_true.mp hword
      rw [← h, toAsciiUppercase, String.toList_ofList]
      exact List.mem_map_of_mem hc
    rw [normalise, hclear]
    exact ⟨h, rfl⟩
  · intro h
    rw [← h.1, normalise, h.2]

theorem string_of_normalisesTo (arg : CommandArg) (word : String) (h : NormalisesTo arg word) :
    ∃ s, arg = .string s ∧ normalise s = word := by
  cases arg with
  | string s => exact ⟨s, rfl, Option.some.inj h⟩
  | number value => cases h
  | bool value => cases h
  | null => cases h

/-! The two readings of the arguments, one for one. -/

/-- The words that the arguments of `SCRIPT` are read for. -/
def keywords : List String := ["LOAD", "EXISTS", "FLUSH", "SYNC", "ASYNC"]

theorem keywords_capital : ∀ word ∈ keywords, word.toList.all isCapital = true := by decide

theorem ScriptShape.imp {α : Type} (reads reads' : α → String → Prop)
    (h : ∀ x, ∀ word ∈ keywords, reads x word → reads' x word) (xs : List α)
    (hshape : ScriptShape reads xs) : ScriptShape reads' xs := by
  cases xs with
  | nil => exact absurd hshape id
  | cons subcommand rest =>
    rcases hshape with ⟨hload, hlength⟩ | ⟨hexists, hlength⟩ | ⟨hflush, hmodes⟩
    · exact Or.inl ⟨h _ _ (by decide) hload, hlength⟩
    · exact Or.inr (Or.inl ⟨h _ _ (by decide) hexists, hlength⟩)
    · refine Or.inr (Or.inr ⟨h _ _ (by decide) hflush, ?_⟩)
      rcases hmodes with hnone | ⟨mode, hrest, hmode⟩
      · exact Or.inl hnone
      · exact Or.inr ⟨mode, hrest, hmode.imp (h _ _ (by decide)) (h _ _ (by decide))⟩

theorem scriptShape_map {α β : Type} (f : α → β) (reads : β → String → Prop) (xs : List α) :
    ScriptShape reads (xs.map f) ↔ ScriptShape (fun x => reads (f x)) xs := by
  cases xs with
  | nil => rfl
  | cons subcommand rest =>
    unfold ScriptShape FlushModes
    simp only [List.map_cons, List.length_map, List.map_eq_nil_iff, List.map_eq_singleton_iff]
    refine or_congr Iff.rfl (or_congr Iff.rfl (and_congr Iff.rfl (or_congr Iff.rfl ?_)))
    constructor
    · intro h
      obtain ⟨_, ⟨x, hrest, rfl⟩, hmode⟩ := h
      exact ⟨x, hrest, hmode⟩
    · intro h
      obtain ⟨x, hrest, hmode⟩ := h
      exact ⟨f x, ⟨x, hrest, rfl⟩, hmode⟩

section Sent

variable (arg : CommandArg) (bytes : List UInt8) (word : String)
  (hsent : sentBytes arg = some bytes) (hword : word ∈ keywords)

include hsent hword

theorem reads_of_tight (hnormal : NormalisesTo arg word) (htight : Tight arg) :
    ReadsAs bytes word := by
  obtain ⟨s, rfl, hs⟩ := string_of_normalisesTo arg word hnormal
  obtain rfl := Option.some.inj hsent
  exact (readsAs_iff_normalise s word (keywords_capital word hword)).mpr ⟨hs, htight s rfl⟩

theorem tight_of_reads (hstring : ∃ judged, NormalisesTo arg judged) (hreads : ReadsAs bytes word) :
    Tight arg ∧ NormalisesTo arg word := by
  obtain ⟨judged, hjudged⟩ := hstring
  obtain ⟨s, rfl, _⟩ := string_of_normalisesTo arg judged hjudged
  obtain rfl := Option.some.inj hsent
  obtain ⟨hs, htrim⟩ := (readsAs_iff_normalise s word (keywords_capital word hword)).mp hreads
  refine ⟨?_, congrArg some hs⟩
  intro t ht
  rw [CommandArg.string.injEq] at ht
  rwa [← ht]

end Sent

theorem eq_of_normalisesTo (arg : CommandArg) (word other : String) (h : NormalisesTo arg word)
    (h' : NormalisesTo arg other) : word = other := Option.some.inj (h.symm.trans h')

theorem flushModes_sent (modes : List CommandArg) (sent : List (List UInt8))
    (hsent : List.Forall₂ (fun arg bytes => sentBytes arg = some bytes) modes sent)
    (hmodes : FlushModes NormalisesTo modes) :
    FlushModes ReadsAs sent ↔ ∀ mode ∈ modes, Tight mode := by
  rcases hmodes with rfl | ⟨mode, rfl, hmode⟩
  · obtain rfl := List.forall₂_nil_left_iff.mp hsent
    exact ⟨fun _ _ h => absurd h List.not_mem_nil, fun _ => Or.inl rfl⟩
  · obtain ⟨bytes, _, hbytes, hnil, rfl⟩ := List.forall₂_cons_left_iff.mp hsent
    obtain rfl := List.forall₂_nil_left_iff.mp hnil
    have hstring : ∃ judged, NormalisesTo mode judged :=
      hmode.elim (fun h => ⟨_, h⟩) (fun h => ⟨_, h⟩)
    rw [List.forall_mem_singleton]
    constructor
    · intro hreads
      rcases hreads with hnone | ⟨_, heq, hsync | hasync⟩
      · cases hnone
      · obtain ⟨rfl, _⟩ := List.cons.inj heq
        exact (tight_of_reads _ _ _ hbytes (by decide) hstring hsync).1
      · obtain ⟨rfl, _⟩ := List.cons.inj heq
        exact (tight_of_reads _ _ _ hbytes (by decide) hstring hasync).1
    · intro htight
      exact Or.inr ⟨bytes, rfl, hmode.imp
        (fun h => reads_of_tight _ _ _ hbytes (by decide) h htight)
        (fun h => reads_of_tight _ _ _ hbytes (by decide) h htight)⟩

/-- The arguments sent have the shape exactly when no keyword was trimmed. -/
theorem scriptShape_sent (name : CommandArg) (args : List CommandArg) (sent : List (List UInt8))
    (hsent : List.Forall₂ (fun arg bytes => sentBytes arg = some bytes) args sent)
    (hshape : ScriptShape NormalisesTo args) :
    ScriptShape ReadsAs sent ↔ TightKeywords (name :: args) := by
  cases hsent with
  | nil => exact absurd hshape id
  | @cons subcommand bytes rest more hhead htail =>
    have hlength := htail.length_eq
    constructor
    · intro hreads
      have hstring : ∃ judged, NormalisesTo subcommand judged := by
        rcases hshape with ⟨h, _⟩ | ⟨h, _⟩ | ⟨h, _⟩
        all_goals exact ⟨_, h⟩
      rcases hreads with ⟨hload, _⟩ | ⟨hexists, _⟩ | ⟨hflush, hmodes⟩
      · obtain ⟨htight, hnormal⟩ := tight_of_reads _ _ _ hhead (by decide) hstring hload
        exact ⟨htight, fun h => absurd (eq_of_normalisesTo _ _ _ hnormal h) (by decide)⟩
      · obtain ⟨htight, hnormal⟩ := tight_of_reads _ _ _ hhead (by decide) hstring hexists
        exact ⟨htight, fun h => absurd (eq_of_normalisesTo _ _ _ hnormal h) (by decide)⟩
      · obtain ⟨htight, hnormal⟩ := tight_of_reads _ _ _ hhead (by decide) hstring hflush
        refine ⟨htight, fun _ => ?_⟩
        rcases hshape with ⟨h, _⟩ | ⟨h, _⟩ | ⟨_, hjudged⟩
        · exact absurd (eq_of_normalisesTo _ _ _ hnormal h) (by decide)
        · exact absurd (eq_of_normalisesTo _ _ _ hnormal h) (by decide)
        · exact (flushModes_sent rest more htail hjudged).mp hmodes
    · intro htight
      rcases hshape with ⟨hload, hone⟩ | ⟨hexists, hsome⟩ | ⟨hflush, hmodes⟩
      · exact Or.inl ⟨reads_of_tight _ _ _ hhead (by decide) hload htight.1, hlength ▸ hone⟩
      · exact Or.inr (Or.inl
          ⟨reads_of_tight _ _ _ hhead (by decide) hexists htight.1, hlength ▸ hsome⟩)
      · exact Or.inr (Or.inr ⟨reads_of_tight _ _ _ hhead (by decide) hflush htight.1,
          (flushModes_sent rest more htail hmodes).mpr (htight.2 hflush)⟩)

/-- Strings that Redis reads as such a command are judged to be one. -/
theorem scriptShape_judged (texts : List String) (h : ScriptShape ReadsAs (texts.map asBytes)) :
    ScriptShape NormalisesTo (texts.map CommandArg.string) := by
  rw [scriptShape_map] at h ⊢
  apply ScriptShape.imp _ _ _ texts h
  intro s word hword hreads
  exact congrArg some ((readsAs_iff_normalise s word (keywords_capital word hword)).mp hreads).1

theorem script_ne_empty : "SCRIPT" ≠ "" := by decide

/-- What Redis receives for an accepted `SCRIPT` is a command of the judged shape
exactly when nothing is trimmed from its keywords; and every array of strings that
Redis would read as such a command is accepted for a ratelimit token, within the
limits and unless `SCRIPT` is blocked, and sent as it was written. -/
theorem script_forwarded_iff (policy : SecurityPolicy) (tokenType : TokenCaps) :
    (∀ array command, policy.parseCommand array tokenType = .ok command →
      command.name = "SCRIPT" → (ScriptShape ReadsAs command.args ↔ TightKeywords array)) ∧
    (∀ raw texts, normalise raw = "SCRIPT" → ScriptShape ReadsAs (texts.map asBytes) →
      tokenType.ratelimit = true → "SCRIPT" ∉ policy.blockedCommands →
      (raw :: texts).length ≤ saturatingAdd policy.maxCommandArgs.val 1 →
      (∀ s ∈ texts, (asBytes s).length ≤ policy.maxArgBytes.val) →
        policy.parseCommand (.string raw :: texts.map .string) tokenType =
          .ok ⟨"SCRIPT", texts.map asBytes⟩) := by
  constructor
  · intro array command haccept hname
    obtain ⟨hcommand, _, hscript, hargs⟩ := (policy.parseCommand_eq_ok _ _ _).mp haccept
    obtain ⟨_, _, raw, rest, rfl, _⟩ := (policy.commandName_eq_ok _ _).mp hcommand
    have hsent := ((mapM_eq_ok _ _ _).mp hargs).imp
      (fun arg bytes h => ((toArgBytes_eq_ok _ arg bytes).mp h).1)
    exact scriptShape_sent (.string raw) rest command.args hsent
      ((validateSubcommand_eq_ok _ _).mp (hscript hname))
  · intro raw texts hraw hshape hcap hblocked hlength hbytes
    apply (policy.parseCommand_eq_ok _ _ _).mpr
    refine ⟨?_, ?_, ?_, ?_⟩
    · rw [policy.commandName_eq_ok, List.length_cons, List.length_map]
      exact ⟨hlength, script_ne_empty, raw, texts.map .string, rfl, hraw⟩
    · exact (policy.mem_reach _ _).mpr ⟨hblocked, Or.inr (Or.inl ⟨hcap, script_mem_ratelimit⟩)⟩
    · intro _
      exact (validateSubcommand_eq_ok _ _).mpr (scriptShape_judged texts hshape)
    · rw [List.drop_one, List.tail_cons, mapM_eq_ok, List.forall₂_map_left_iff,
        List.forall₂_map_right_iff, List.forall₂_same]
      intro s hs
      exact (toArgBytes_eq_ok _ _ _).mpr ⟨rfl, hbytes s hs⟩

/-- No standard command allowed, none blocked, generous limits. -/
def ratelimitPolicy : SecurityPolicy := ⟨∅, ∅, 10, 10, 1024⟩

def ratelimitOnly : TokenCaps := ⟨false, true, false⟩

def flushSync : List CommandArg := [.string "script", .string "flush", .string "sync"]

theorem flushSync_tight : TightKeywords flushSync := by
  constructor
  · intro s hs
    rw [← CommandArg.string.inj hs]
    decide
  · intro _ mode hmode s hs
    rw [List.mem_singleton.mp hmode] at hs
    rw [← CommandArg.string.inj hs]
    decide

/-- `["script", "flush", "sync"]` is accepted, and Redis reads it as `FLUSH SYNC`. -/
theorem script_forwarded_flush : ∃ command,
    ratelimitPolicy.parseCommand flushSync ratelimitOnly = .ok command ∧
      ScriptShape ReadsAs command.args := by
  have haccept := (script_forwarded_iff ratelimitPolicy ratelimitOnly).2 "script" ["flush", "sync"]
    (by decide) (Or.inr (Or.inr ⟨by decide, Or.inr ⟨_, rfl, Or.inl (by decide)⟩⟩))
    (by decide) (by decide) (by decide) (by decide)
  exact ⟨_, haccept,
    ((script_forwarded_iff _ _).1 flushSync _ haccept rfl).mpr flushSync_tight⟩

def paddedLoad : List CommandArg := [.string "SCRIPT", .string " LOAD ", .string "return 1"]

/-- The blanks around ` LOAD ` are judged away and sent. -/
theorem padded_load_sent : ¬∀ (policy : SecurityPolicy) (tokenType : TokenCaps)
    (array : List CommandArg) (command : RedisCommand),
    policy.parseCommand array tokenType = .ok command → command.name = "SCRIPT" →
      ScriptShape ReadsAs command.args := by
  intro h
  have haccept : ratelimitPolicy.parseCommand paddedLoad ratelimitOnly =
      .ok ⟨"SCRIPT", [asBytes " LOAD ", asBytes "return 1"]⟩ := by decide
  rcases h _ _ _ _ haccept rfl with ⟨hread, _⟩ | ⟨hread, _⟩ | ⟨hread, _⟩
  · exact absurd hread (by decide)
  · exact absurd hread (by decide)
  · exact absurd hread (by decide)

end RedisBridge.ScriptForwarding
