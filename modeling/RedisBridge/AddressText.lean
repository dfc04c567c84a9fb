import RedisBridge.IpAddress

/-!
The texts that the address readers take. A reader is within a class of characters
when it takes characters of the class only, and when a character outside the class
ends every text for it. So it reads an address in front of such a character as it
reads the address alone, and the part that it takes stands for itself.
-/
namespace RedisBridge.IpAddress

open RustText

variable {α β : Type} (ok : Char → Bool)

structure Within (reader : Reader α) : Prop where
  takes : ∀ cs value rest, reader cs = some (value, rest) →
    ∃ taken, cs = taken ++ rest ∧ ∀ c ∈ taken, ok c = true
  stops : ∀ cs c rest, ok c = false →
    reader (cs ++ c :: rest) = (reader cs).map (fun r => (r.1, r.2 ++ c :: rest))

namespace Within

variable {ok}

theorem bind (reader : Reader α) (next : α → Reader β) (h : Within ok reader)
    (hnext : ∀ a, Within ok (next a)) :
    Within ok (fun cs => (reader cs).bind (fun r => next r.1 r.2)) := by
  constructor
  · intro cs value rest hread
    obtain ⟨⟨a, mid⟩, hfirst, hsecond⟩ := Option.bind_eq_some_iff.mp hread
    obtain ⟨taken, rfl, htaken⟩ := h.takes cs a mid hfirst
    obtain ⟨more, rfl, hmore⟩ := (hnext a).takes mid value rest hsecond
    refine ⟨taken ++ more, (List.append_assoc _ _ _).symm, ?_⟩
    intro c hc
    exact (List.mem_append.mp hc).elim (htaken c) (hmore c)
  · intro cs c rest hc
    rw [h.stops cs c rest hc]
    cases hread : reader cs with
    | none => rfl
    | some r => exact (hnext r.1).stops r.2 c rest hc

theorem map (reader : Reader α) (f : α → β) (h : Within ok reader) :
    Within ok (fun cs => (reader cs).map (fun r => (f r.1, r.2))) := by
  constructor
  · intro cs value rest hread
    obtain ⟨⟨a, mid⟩, hfirst, hsecond⟩ := Option.map_eq_some_iff.mp hread
    cases hsecond
    exact h.takes cs a mid hfirst
  · intro cs c rest hc
    rw [h.stops cs c rest hc]
    cases reader cs <;> rfl

theorem pure (a : α) : Within ok (fun cs => some (a, cs)) := by
  constructor
  · intro cs value rest hread
    cases hread
    exact ⟨[], rfl, fun _ h => absurd h List.not_mem_nil⟩
  · intro cs c rest _
    rfl

theorem fail : Within ok (fun _ => none : Reader α) := by
  constructor
  · intro cs value rest hread
    cases hread
  · intro cs c rest _
    rfl

/-- The second reader is tried where the first one fails. -/
theorem orElse (first second : Reader α) (h : Within ok first) (h' : Within ok second) :
    Within ok (fun cs => (first cs).or (second cs)) := by
  constructor
  · intro cs value rest hread
    rcases Option.or_eq_some_iff.mp hread with hfirst | ⟨_, hsecond⟩
    · exact h.takes cs value rest hfirst
    · exact h'.takes cs value rest hsecond
  · intro cs c rest hc
    rw [h.stops cs c rest hc, h'.stops cs c rest hc]
    cases first cs <;> rfl

theorem readGivenChar (target : Char) (htarget : ok target = true) :
    Within ok (readGivenChar target) := by
  constructor
  · intro cs value rest hread
    cases cs with
    | nil => cases hread
    | cons c tail =>
      simp only [IpAddress.readGivenChar] at hread
      split_ifs at hread with heq
      cases hread
      refine ⟨[c], rfl, ?_⟩
      intro d hd
      rw [List.mem_singleton.mp hd, heq]
      exact htarget
  · intro cs c rest hc
    cases cs with
    | nil =>
      have hne : c ≠ target := by
        rintro rfl
        rw [htarget] at hc
        cases hc
      exact if_neg hne
    | cons d tail =>
      simp only [List.cons_append, IpAddress.readGivenChar]
      split_ifs <;> rfl

theorem readSeparator (sep : Char) (index : ℕ) (inner : Reader α) (hsep : ok sep = true)
    (h : Within ok inner) : Within ok (readSeparator sep index inner) := by
  have hafter := bind _ (fun _ => inner) (readGivenChar sep hsep) (fun _ => h)
  unfold IpAddress.readSeparator
  split_ifs
  · exact hafter
  · exact h

end Within

theorem spanDigits_takes (radix : ℕ) (cs : List Char) :
    ∃ taken, cs = taken ++ (spanDigits radix cs).2 ∧ ∀ c ∈ taken, toDigit radix c ≠ none := by
  induction cs with
  | nil => exact ⟨[], rfl, fun _ h => absurd h List.not_mem_nil⟩
  | cons c rest ih =>
    cases hdigit : toDigit radix c with
    | none =>
      refine ⟨[], ?_, fun _ h => absurd h List.not_mem_nil⟩
      simp only [spanDigits, hdigit, List.nil_append]
    | some d =>
      obtain ⟨taken, hrest, htaken⟩ := ih
      refine ⟨c :: taken, ?_, ?_⟩
      · simp only [spanDigits, hdigit, List.cons_append]
        rw [← hrest]
      · intro x hx
        rcases List.mem_cons.mp hx with rfl | hmem
        · rw [hdigit]
          exact Option.some_ne_none d
        · exact htaken x hmem

theorem spanDigits_stops (radix : ℕ) (cs : List Char) (c : Char) (rest : List Char)
    (hc : toDigit radix c = none) : spanDigits radix (cs ++ c :: rest) =
      ((spanDigits radix cs).1, (spanDigits radix cs).2 ++ c :: rest) := by
  induction cs with
  | nil => simp only [List.nil_append, spanDigits, hc]
  | cons d tail ih =>
    rw [List.cons_append, spanDigits, spanDigits]
    cases toDigit radix d with
    | none => rfl
    | some value => simp only [ih]

theorem Within.readNumber (radix : ℕ) (maxDigits : Option ℕ) (allowZeroPrefix : Bool)
    (bound : ℕ) (hdigit : ∀ c, toDigit radix c ≠ none → ok c = true) :
    Within ok (readNumber radix maxDigits allowZeroPrefix bound) := by
  constructor
  · intro cs value rest hread
    unfold IpAddress.readNumber at hread
    dsimp only at hread
    split_ifs at hread
    cases hread
    obtain ⟨taken, hcs, htaken⟩ := spanDigits_takes radix cs
    exact ⟨taken, hcs, fun c hc => hdigit c (htaken c hc)⟩
  · intro cs c rest hc
    have hnone : toDigit radix c = none := by
      by_contra hsome
      rw [hdigit c hsome] at hc
      cases hc
    unfold IpAddress.readNumber
    dsimp only
    rw [spanDigits_stops radix cs c rest hnone]
    split_ifs <;> rfl

/-- The characters of an IPv4 address. -/
def isV4Char (c : Char) : Bool := (toDigit 10 c).isSome || c == '.'

/-- The characters of an IPv6 address. -/
def isV6Char (c : Char) : Bool := (toDigit 16 c).isSome || c == '.' || c == ':'

theorem toDigit_mono (c : Char) (h : toDigit 10 c ≠ none) : toDigit 16 c ≠ none := by
  obtain ⟨d, hd⟩ := Option.ne_none_iff_exists'.mp h
  obtain ⟨hvalue, hlt⟩ := Option.filter_eq_some_iff.mp hd
  rw [decide_eq_true_eq] at hlt
  apply Option.ne_none_iff_exists'.mpr
  refine ⟨d, Option.filter_eq_some_iff.mpr ⟨hvalue, ?_⟩⟩
  rw [decide_eq_true_eq]
  omega

/-- The groups, with the flag of an embedded IPv4 address, as a reader. -/
def groups (wanted index : ℕ) : Reader (List (BitVec 16) × Bool) := fun cs =>
  some (((readGroups wanted index cs).1, (readGroups wanted index cs).2.1),
    (readGroups wanted index cs).2.2)

def embedded (wanted index : ℕ) : Reader (BitVec 32) :=
  if 0 < wanted then readSeparator ':' index readIpv4Addr else fun _ => none

theorem groups_succ (wanted index : ℕ) : groups (wanted + 1) index = fun cs =>
    ((embedded wanted index cs).map
        (fun r => (([r.1.extractLsb' 16 16, r.1.extractLsb' 0 16], true), r.2))).or
      (((readGroup index cs).bind (fun r => (groups wanted (index + 1) r.2).map
          (fun more => ((r.1 :: more.1.1, more.1.2), more.2)))).or
        (some (([], false), cs))) := by
  funext cs
  have hembedded : embedded wanted index cs =
      if 0 < wanted then readSeparator ':' index readIpv4Addr cs else none := by
    unfold embedded
    split_ifs <;> rfl
  rw [hembedded]
  unfold groups
  rw [readGroups]
  dsimp only
  cases (if 0 < wanted then readSeparator ':' index readIpv4Addr cs else none) with
  | some r => rfl
  | none =>
    cases readGroup index cs with
    | some r => rfl
    | none => rfl

/-- What follows the groups at the front: nothing, or a run of zeros and the last groups. -/
def afterHead (head : List (BitVec 16) × Bool) : Reader (BitVec 128) :=
  if head.1.length = 8 then fun cs => some (ipv6OfGroups head.1, cs)
  else if head.2 = true then fun _ => none
  else fun cs => (readGivenChar ':' cs).bind (fun r => (readGivenChar ':' r.2).bind (fun r =>
    (groups (8 - (head.1.length + 1)) 0 r.2).map (fun tail =>
      (ipv6OfGroups (head.1 ++ List.replicate (8 - head.1.length - tail.1.1.length) 0 ++ tail.1.1),
        tail.2))))

theorem readIpv6Addr_eq :
    readIpv6Addr = fun cs => (groups 8 0 cs).bind (fun r => afterHead r.1 r.2) := by
  funext cs
  unfold readIpv6Addr groups afterHead
  dsimp only [Option.bind_some]
  split_ifs
  · rfl
  · rfl
  · rfl

theorem readIpAddr_eq : readIpAddr = fun cs =>
    ((readIpv4Addr cs).map (fun r => (IpAddr.v4 r.1, r.2))).or
      ((readIpv6Addr cs).map (fun r => (IpAddr.v6 r.1, r.2))) := by
  funext cs
  unfold readIpAddr
  cases readIpv4Addr cs with
  | some r => rfl
  | none => rfl

section Classes

variable (hdot : ok '.' = true) (hdigit : ∀ c, toDigit 10 c ≠ none → ok c = true)

include hdot hdigit

theorem within_readOctet (index : ℕ) : Within ok (readOctet index) := by
  have hnumber := Within.readNumber ok 10 (some 3) false 256 hdigit
  have hsep := Within.readSeparator '.' index _ hdot hnumber
  exact hsep.map _ (fun d : Fin 256 => (BitVec.ofFin d : BitVec 8))

theorem within_readIpv4Addr : Within ok readIpv4Addr := by
  have hoctet (index : ℕ) := within_readOctet ok hdot hdigit index
  exact (hoctet 0).bind _ _ fun a => (hoctet 1).bind _ _ fun b => (hoctet 2).bind _ _ fun c =>
    (hoctet 3).bind _ _ fun d => Within.pure ((a ++ b ++ c ++ d).cast rfl)

variable (hcolon : ok ':' = true) (hhex : ∀ c, toDigit 16 c ≠ none → ok c = true)

include hcolon hhex

omit hdot hdigit in
theorem within_readGroup (index : ℕ) : Within ok (readGroup index) := by
  have hnumber := Within.readNumber ok 16 (some 4) true (2 ^ 16) hhex
  have hsep := Within.readSeparator ':' index _ hcolon hnumber
  exact hsep.map _ (fun d => BitVec.ofFin d)

theorem within_groups (wanted index : ℕ) : Within ok (groups wanted index) := by
  induction wanted generalizing index with
  | zero => exact Within.pure ([], false)
  | succ wanted ih =>
    rw [groups_succ]
    have hv4 := Within.readSeparator ':' index _ hcolon (within_readIpv4Addr ok hdot hdigit)
    have hembedded : Within ok (embedded wanted index) := by
      unfold embedded
      split_ifs
      · exact hv4
      · exact Within.fail
    have hgroup := (within_readGroup ok hcolon hhex index).bind _ _
      (fun group => (ih (index + 1)).map _ (fun more => (group :: more.1, more.2)))
    have hhead := hembedded.map _
      (fun v4 : BitVec 32 => ([v4.extractLsb' 16 16, v4.extractLsb' 0 16], true))
    exact hhead.orElse _ _ (hgroup.orElse _ _ (Within.pure ([], false)))

theorem within_readIpv6Addr : Within ok readIpv6Addr := by
  have hgroups (wanted : ℕ) := within_groups ok hdot hdigit hcolon hhex wanted 0
  have hgiven : Within ok (readGivenChar ':') := .readGivenChar ':' hcolon
  rw [readIpv6Addr_eq]
  apply Within.bind _ afterHead (hgroups 8)
  intro head
  unfold afterHead
  split_ifs
  · exact Within.pure _
  · exact Within.fail
  · exact hgiven.bind _ _ fun _ => hgiven.bind _ _ fun _ => (hgroups _).map _
      (fun tail => ipv6OfGroups
        (head.1 ++ List.replicate (8 - head.1.length - tail.1.length) 0 ++ tail.1))

theorem within_readIpAddr : Within ok readIpAddr := by
  have hv4 := (within_readIpv4Addr ok hdot hdigit).map _ IpAddr.v4
  have hv6 := (within_readIpv6Addr ok hdot hdigit hcolon hhex).map _ IpAddr.v6
  rw [readIpAddr_eq]
  exact hv4.orElse _ _ hv6

end Classes

theorem Within.ahead {ok : Char → Bool} (reader : Reader α) (h : Within ok reader)
    (cs : List Char) (value : α) (c : Char) (rest : List Char) (hc : ok c = false)
    (hread : reader cs = some (value, [])) :
    reader (cs ++ c :: rest) = some (value, c :: rest) := by
  rw [h.stops cs c rest hc, hread]
  rfl

theorem Within.none_of_head {ok : Char → Bool} (reader : Reader α) (h : Within ok reader)
    (c : Char) (rest : List Char) (hc : ok c = false) (hnil : reader [] = none) :
    reader (c :: rest) = none := by
  have hstop := h.stops [] c rest hc
  rwa [hnil] at hstop

/-- What a reader takes in front of a foreign character it reads alone. -/
theorem Within.taken {ok : Char → Bool} (reader : Reader α) (h : Within ok reader)
    (cs : List Char) (value : α) (c : Char) (rest : List Char) (hc : ok c = false)
    (hread : reader cs = some (value, c :: rest)) :
    ∃ taken, cs = taken ++ c :: rest ∧ reader taken = some (value, []) := by
  obtain ⟨taken, rfl, _⟩ := h.takes cs value (c :: rest) hread
  rw [h.stops taken c rest hc] at hread
  obtain ⟨⟨value', left⟩, htaken, heq⟩ := Option.map_eq_some_iff.mp hread
  simp only [Prod.mk.injEq, List.append_left_eq_self] at heq
  obtain ⟨rfl, rfl⟩ := heq
  exact ⟨taken, rfl, htaken⟩

theorem readIpv4Addr_within : Within isV4Char readIpv4Addr := by
  apply within_readIpv4Addr
  · rfl
  · intro c hc
    rw [isV4Char, Option.isSome_iff_ne_none.mpr hc, Bool.true_or]

theorem isV6Char_of_digit (c : Char) (hc : toDigit 16 c ≠ none) : isV6Char c = true := by
  rw [isV6Char, Option.isSome_iff_ne_none.mpr hc, Bool.true_or, Bool.true_or]

theorem readIpv6Addr_within : Within isV6Char readIpv6Addr :=
  within_readIpv6Addr isV6Char rfl (fun c hc => isV6Char_of_digit c (toDigit_mono c hc)) rfl
    isV6Char_of_digit

theorem readIpAddr_within : Within isV6Char readIpAddr :=
  within_readIpAddr isV6Char rfl (fun c hc => isV6Char_of_digit c (toDigit_mono c hc)) rfl
    isV6Char_of_digit

/-- A text that starts with an IPv4 address starts with no IPv6 address. -/
theorem readIpv6Addr_of_v4 (cs : List Char) (r : BitVec 32 × List Char)
    (h : readIpv4Addr cs = some r) : readIpv6Addr cs = none := by
  have hembedded : embedded 7 0 cs = some r := h
  rw [readIpv6Addr_eq, groups_succ]
  dsimp only
  rw [hembedded]
  rfl

theorem readGivenChar_none (target : Char) (cs : List Char) (h : target ∉ cs) :
    readGivenChar target cs = none := by
  cases cs with
  | nil => rfl
  | cons c rest =>
    have hne : c ≠ target := fun heq => h (heq ▸ List.mem_cons_self)
    exact if_neg hne

theorem readSeparator_none (sep : Char) (index : ℕ) (inner : Reader α) (cs : List Char)
    (hindex : 0 < index) (hsep : sep ∉ cs) : readSeparator sep index inner cs = none := by
  unfold readSeparator
  rw [if_pos hindex, readGivenChar_none sep cs hsep]
  rfl

/-- Without a colon one group is read at most. -/
theorem groups_of_no_colon (cs : List Char) (hcolon : ':' ∉ cs)
    (hv4 : readIpv4Addr cs = none) : ∃ head rest, groups 8 0 cs = some ((head, false), rest) ∧
      head.length ≤ 1 ∧ ':' ∉ rest := by
  have hembedded : embedded 7 0 cs = none := hv4
  rw [groups_succ]
  dsimp only
  rw [hembedded]
  cases hgroup : readGroup 0 cs with
  | none => exact ⟨[], cs, rfl, Nat.zero_le 1, hcolon⟩
  | some r =>
    obtain ⟨group, rest⟩ := r
    obtain ⟨taken, hcs, _⟩ :=
      (within_readGroup isV6Char rfl isV6Char_of_digit 0).takes cs group rest hgroup
    have hrest : ':' ∉ rest := fun h => hcolon (hcs ▸ List.mem_append_right taken h)
    have hnext : groups 7 1 rest = some (([], false), rest) := by
      have hinner : embedded 6 1 rest = none := readSeparator_none _ _ _ rest Nat.one_pos hrest
      have hgroup' : readGroup 1 rest = none := by
        unfold readGroup
        rw [readSeparator_none _ _ _ rest Nat.one_pos hrest]
        rfl
      rw [groups_succ]
      dsimp only
      rw [hinner, hgroup']
      rfl
    refine ⟨[group], rest, ?_, le_refl 1, hrest⟩
    rw [Option.bind_some, hnext]
    rfl

/-- An IPv6 address has a colon. -/
theorem colon_of_readIpv6Addr (cs : List Char) (r : BitVec 128 × List Char)
    (h : readIpv6Addr cs = some r) : ':' ∈ cs := by
  by_contra hcolon
  cases hv4 : readIpv4Addr cs with
  | some v4 =>
    rw [readIpv6Addr_of_v4 cs v4 hv4] at h
    cases h
  | none =>
    obtain ⟨head, rest, hgroups, hlength, hrest⟩ := groups_of_no_colon cs hcolon hv4
    have hshort : head.length ≠ 8 := by omega
    have hafter : afterHead (head, false) rest = none := by
      unfold afterHead
      rw [if_neg hshort, if_neg Bool.false_ne_true]
      dsimp only
      rw [readGivenChar_none ':' rest hrest]
      rfl
    rw [readIpv6Addr_eq] at h
    dsimp only at h
    rw [hgroups, Option.bind_some, hafter] at h
    cases h

/-! Parsing, in terms of the readers. -/

theorem parseWith_eq_some (reader : Reader α) (s : String) (value : α) :
    parseWith reader s = some value ↔ reader s.toList = some (value, []) := by
  unfold parseWith
  split
  · next h => simp [h]
  · next h =>
    constructor
    · intro hnone
      cases hnone
    · intro hread
      exact absurd hread (h value)

theorem parseIpAddr_v4 (s : String) (bits : BitVec 32) :
    parseIpAddr s = some (.v4 bits) ↔ readIpv4Addr s.toList = some (bits, []) := by
  rw [parseIpAddr, parseWith_eq_some, readIpAddr_eq]
  cases hv4 : readIpv4Addr s.toList with
  | some r => simp [hv4, Prod.ext_iff]
  | none => simp [hv4]

theorem parseIpAddr_v6 (s : String) (bits : BitVec 128) :
    parseIpAddr s = some (.v6 bits) ↔ readIpv6Addr s.toList = some (bits, []) := by
  rw [parseIpAddr, parseWith_eq_some, readIpAddr_eq]
  cases hv4 : readIpv4Addr s.toList with
  | some r => simp [hv4, readIpv6Addr_of_v4 s.toList r hv4]
  | none => simp [hv4, Prod.ext_iff]

/-- The characters of the text of an address. -/
theorem chars_of_parseIpAddr (s : String) (ip : IpAddr) (h : parseIpAddr s = some ip) :
    s ≠ "" ∧ ∀ c ∈ s.toList, isV6Char c = true := by
  constructor
  · rintro rfl
    cases h
  · rw [parseIpAddr, parseWith_eq_some] at h
    obtain ⟨taken, htaken, hchars⟩ := readIpAddr_within.takes s.toList ip [] h
    rwa [htaken, List.append_nil]

theorem chars_of_v4 (s : String) (bits : BitVec 32) (h : parseIpAddr s = some (.v4 bits)) :
    ∀ c ∈ s.toList, isV4Char c = true := by
  rw [parseIpAddr_v4] at h
  obtain ⟨taken, htaken, hchars⟩ := readIpv4Addr_within.takes s.toList bits [] h
  rwa [htaken, List.append_nil]

end RedisBridge.IpAddress
