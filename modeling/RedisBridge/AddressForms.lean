import RedisBridge.AddressText
import RedisBridge.ClientAddress
import RedisBridge.TrimmedText

/-!
Which texts are read as an address. Blanks are stripped, then quotes, and what is
left has one of four forms: the text of the address, that text with anything but a
colon behind a colon, the text in brackets with anything behind these, and the text
of an IPv6 address in brackets with a scope, where the port must be a number.
-/
namespace RedisBridge.ClientAddress

open IpAddress RustText TrimmedText

/-- What is left of a candidate without the blanks and the quotes around it. -/
def stripped (raw : String) : String := trimMatches (· == '"') (trim raw)

/-- The forms in which the text of an address is read. -/
inductive AddressForm : IpAddr → List Char → Prop
  | bare (ip : IpAddr) (text : String) (h : parseIpAddr text = some ip) :
      AddressForm ip text.toList
  | ported (ip : IpAddr) (text : String) (port : List Char) (h : parseIpAddr text = some ip)
      (htext : ':' ∉ text.toList) (hport : ':' ∉ port) :
      AddressForm ip (text.toList ++ ':' :: port)
  | bracketed (ip : IpAddr) (text : String) (tail : List Char) (h : parseIpAddr text = some ip) :
      AddressForm ip ('[' :: text.toList ++ ']' :: tail)
  | scopedPort (bits : BitVec 128) (text : String) (scope port : List Char)
      (h : parseIpAddr text = some (.v6 bits)) (number : Fin (2 ^ 32)) (portNumber : Fin (2 ^ 16))
      (hscope : readNumber 10 none true (2 ^ 32) scope = some (number, []))
      (hport : readNumber 10 none true (2 ^ 16) port = some (portNumber, [])) :
      AddressForm (.v6 bits) ('[' :: text.toList ++ '%' :: scope ++ ']' :: ':' :: port)

/-! Reading one form after the other. -/

theorem lower_u (c : Char) (h : c.toLower = 'u') : c = 'u' ∨ c = 'U' := by
  have hletter := letter_of_toLower c (by rw [h]; decide)
  exact of_ascii (fun c => c.toLower = 'u' → c = 'u' ∨ c = 'U') (by decide) c (by omega) h

/-- The text that is left of a candidate is neither empty nor `unknown`. -/
def Named (value : String) : Prop :=
  ¬(value = "" ∨ eqIgnoreAsciiCase value "unknown" = true)

theorem named_of_ne (value : String) (c : Char) (rest : List Char)
    (hvalue : value.toList = c :: rest) (hc : c ≠ 'u' ∧ c ≠ 'U') : Named value := by
  intro h
  rcases h with hempty | hunknown
  · rw [hempty] at hvalue
    cases hvalue
  · have hlower := congrArg String.toList (beq_iff_eq.mp hunknown)
    rw [toAsciiLowercase, String.toList_ofList, hvalue, List.map_cons] at hlower
    have hu : c.toLower = 'u' := (List.cons.inj hlower).1
    exact (lower_u c hu).elim hc.1 hc.2

section Attempts

variable (raw value : String) (htrim : stripped raw = value) (hnamed : Named value)

include htrim hnamed

theorem candidate_plain (ip : IpAddr) (h : parseIpAddr value = some ip) :
    parseIpCandidate raw = some ip := by
  unfold parseIpCandidate
  rw [← stripped, htrim]
  dsimp only
  rw [if_neg hnamed, h]

theorem candidate_socket (ip : IpAddr) (hplain : parseIpAddr value = none)
    (h : parseSocketAddrIp value = some ip) : parseIpCandidate raw = some ip := by
  unfold parseIpCandidate
  rw [← stripped, htrim]
  dsimp only
  rw [if_neg hnamed, hplain]
  dsimp only
  rw [h]

theorem candidate_bracket (rest : List Char) (hvalue : value.toList = '[' :: rest)
    (hplain : parseIpAddr value = none) (hsocket : parseSocketAddrIp value = none) :
    parseIpCandidate raw =
      (splitOnce (· == ']') (String.ofList rest)).bind (fun parts => parseIpAddr parts.1) := by
  unfold parseIpCandidate
  rw [← stripped, htrim]
  dsimp only
  rw [if_neg hnamed, hplain]
  dsimp only
  rw [hsocket]
  dsimp only
  rw [hvalue]
  rfl

theorem candidate_port (c : Char) (rest : List Char) (hvalue : value.toList = c :: rest)
    (hc : c ≠ '[') (hcount : value.toList.count ':' = 1) (hplain : parseIpAddr value = none)
    (hsocket : parseSocketAddrIp value = none) :
    parseIpCandidate raw =
      (rsplitOnce (· == ':') value).bind (fun parts => parseIpAddr parts.1) := by
  unfold parseIpCandidate
  rw [← stripped, htrim]
  dsimp only
  rw [if_neg hnamed, hplain]
  dsimp only
  rw [hsocket]
  dsimp only
  split
  · next h =>
    rw [hvalue] at h
    exact absurd (List.cons.inj h).1 hc
  · rw [if_pos hcount]

end Attempts

/-! The characters of an address. -/

theorem v6Char_ascii (c : Char) (h : isV6Char c = true) : c.toNat < 128 := by
  simp only [isV6Char, Bool.or_eq_true, beq_iff_eq] at h
  rcases h with (hdigit | rfl) | rfl
  · obtain ⟨d, hd⟩ := Option.isSome_iff_exists.mp hdigit
    obtain ⟨hvalue, _⟩ := Option.filter_eq_some_iff.mp hd
    split_ifs at hvalue
    all_goals omega
  · decide
  · decide

theorem v6Char_clear (c : Char) (h : isV6Char c = true) : isWhitespace c = false :=
  of_ascii (fun c => isV6Char c = true → isWhitespace c = false) (by decide) c (v6Char_ascii c h) h

theorem v6Char_ne (c mark : Char) (h : isV6Char c = true) (hmark : isV6Char mark = false) :
    c ≠ mark := by
  rintro rfl
  rw [h] at hmark
  cases hmark

/-- No other character stands in the text of an address. -/
theorem not_mem_text (text : String) (ip : IpAddr) (mark : Char) (h : parseIpAddr text = some ip)
    (hmark : isV6Char mark = false) : mark ∉ text.toList :=
  fun hmem => v6Char_ne mark mark ((chars_of_parseIpAddr text ip h).2 mark hmem) hmark rfl

theorem head_of_text (text : String) (ip : IpAddr) (h : parseIpAddr text = some ip) :
    ∃ c rest, text.toList = c :: rest ∧ isV6Char c = true := by
  obtain ⟨hne, hchars⟩ := chars_of_parseIpAddr text ip h
  cases htext : text.toList with
  | nil =>
    rw [← String.ofList_toList (s := text), htext] at hne
    exact absurd rfl hne
  | cons c rest =>
    rw [htext] at hchars
    exact ⟨c, rest, rfl, hchars c List.mem_cons_self⟩

theorem named_of_head (value : String) (c : Char) (rest : List Char)
    (hvalue : value.toList = c :: rest) (hc : isV6Char c = true) : Named value :=
  named_of_ne value c rest hvalue ⟨v6Char_ne c 'u' hc rfl, v6Char_ne c 'U' hc rfl⟩

/-! Every form is read. -/

/-- A parse whose value is fixed yields that value, or leaves something unread. -/
theorem parseWith_of_map {β : Type} (reader : Reader IpAddr) (s : String)
    (read : Option (β × List Char)) (ip : IpAddr)
    (h : reader s.toList = read.map (fun r => (ip, r.2))) :
    parseWith reader s = none ∨ parseWith reader s = some ip := by
  unfold parseWith
  rw [h]
  cases read with
  | none => exact Or.inl rfl
  | some r =>
    obtain ⟨number, left⟩ := r
    cases left with
    | nil => exact Or.inr rfl
    | cons c more => exact Or.inl rfl

/-- A port that is no number leaves the socket address unread. -/
theorem socket_of_v4 (text : List Char) (bits : BitVec 32) (port : List Char)
    (hread : readIpv4Addr text = some (bits, [])) (hhead : text.head? ≠ some '[') :
    parseSocketAddrIp (String.ofList (text ++ ':' :: port)) = none ∨
      parseSocketAddrIp (String.ofList (text ++ ':' :: port)) = some (.v4 bits) := by
  have hahead := readIpv4Addr_within.ahead _ text bits ':' port rfl hread
  have hgiven : readGivenChar '[' (text ++ ':' :: port) = none := by
    cases text with
    | nil => rfl
    | cons c rest => exact if_neg (fun h => hhead (congrArg some h))
  have hsocket : readSocketAddr (text ++ ':' :: port) =
      (readPort (':' :: port)).map (fun r => (IpAddr.v4 bits, r.2)) := by
    unfold readSocketAddr
    rw [hahead]
    dsimp only [Option.bind_eq_bind, Option.bind_some]
    cases readPort (':' :: port) with
    | some r => rfl
    | none =>
      dsimp only [Option.bind_none]
      rw [hgiven]
      rfl
  apply parseWith_of_map readSocketAddr _ (readPort (':' :: port))
  rw [String.toList_ofList]
  exact hsocket

theorem socket_of_v6 (text : List Char) (bits : BitVec 128) (tail : List Char)
    (hread : readIpv6Addr text = some (bits, [])) :
    parseSocketAddrIp (String.ofList ('[' :: text ++ ']' :: tail)) = none ∨
      parseSocketAddrIp (String.ofList ('[' :: text ++ ']' :: tail)) = some (.v6 bits) := by
  have hahead := readIpv6Addr_within.ahead _ text bits ']' tail rfl hread
  have hv4 := readIpv4Addr_within.none_of_head _ '[' (text ++ ']' :: tail) rfl rfl
  have hsocket : readSocketAddr ('[' :: (text ++ ']' :: tail)) =
      (readPort tail).map (fun r => (IpAddr.v6 bits, r.2)) := by
    unfold readSocketAddr
    rw [hv4]
    have hopen : readGivenChar '[' ('[' :: (text ++ ']' :: tail)) =
        some ((), text ++ ']' :: tail) := rfl
    have hscope : readScopeId (']' :: tail) = none := rfl
    have hclose : readGivenChar ']' (']' :: tail) = some ((), tail) := rfl
    simp only [Option.bind_eq_bind, Option.bind_none, Option.bind_some, hopen, hahead, hscope,
      Option.map_none, Option.getD_none, hclose]
    cases readPort tail with
    | some r => rfl
    | none => rfl
  apply parseWith_of_map readSocketAddr _ (readPort tail)
  rw [String.toList_ofList]
  exact hsocket

theorem socket_of_bracketed_v4 (text : List Char) (bits : BitVec 32) (tail : List Char)
    (hread : readIpv4Addr text = some (bits, [])) :
    parseSocketAddrIp (String.ofList ('[' :: text ++ ']' :: tail)) = none := by
  have hahead := readIpv4Addr_within.ahead _ text bits ']' tail rfl hread
  have hv4 := readIpv4Addr_within.none_of_head _ '[' (text ++ ']' :: tail) rfl rfl
  have hv6 := readIpv6Addr_of_v4 _ _ hahead
  have hopen : readGivenChar '[' ('[' :: (text ++ ']' :: tail)) = some ((), text ++ ']' :: tail) :=
    rfl
  have hsocket : readSocketAddr ('[' :: (text ++ ']' :: tail)) = none := by
    unfold readSocketAddr
    rw [hv4]
    simp only [Option.bind_eq_bind, Option.bind_none, Option.bind_some, hopen, hv6]
  unfold parseSocketAddrIp parseWith
  rw [String.toList_ofList, List.cons_append, hsocket]

/-- A number ends where its digits do. -/
theorem decimal_within (bound : ℕ) :
    Within (fun c => (toDigit 10 c).isSome) (readNumber 10 none true bound) :=
  Within.readNumber _ 10 none true bound (fun _ h => Option.isSome_iff_ne_none.mpr h)

section Reading

variable (raw : String) (text : String)

theorem read_bare (ip : IpAddr) (htrim : stripped raw = text) (htext : parseIpAddr text = some ip) :
    parseIpCandidate raw = some ip := by
  obtain ⟨c, rest, hvalue, hc⟩ := head_of_text text ip htext
  exact candidate_plain raw text htrim (named_of_head text c rest hvalue hc) ip htext

/-- A text without a colon is that of an IPv4 address. -/
theorem v4_of_no_colon (ip : IpAddr) (htext : parseIpAddr text = some ip)
    (hcolon : ':' ∉ text.toList) : ∃ bits, ip = .v4 bits := by
  cases ip with
  | v4 bits => exact ⟨bits, rfl⟩
  | v6 bits => exact absurd (colon_of_readIpv6Addr _ _ ((parseIpAddr_v6 text bits).mp htext)) hcolon

theorem read_ported (ip : IpAddr) (port : List Char) (hcolon : ':' ∉ text.toList)
    (hport : ':' ∉ port) (htrim : stripped raw = String.ofList (text.toList ++ ':' :: port))
    (htext : parseIpAddr text = some ip) : parseIpCandidate raw = some ip := by
  obtain ⟨bits, rfl⟩ := v4_of_no_colon text ip htext hcolon
  obtain ⟨c, rest, hhead, hc⟩ := head_of_text text _ htext
  have hbracket : c ≠ '[' := v6Char_ne c '[' hc rfl
  have hread := (parseIpAddr_v4 text bits).mp htext
  have hvalue : (String.ofList (text.toList ++ ':' :: port)).toList =
      c :: (rest ++ ':' :: port) := by
    rw [String.toList_ofList, hhead, List.cons_append]
  have hnamed := named_of_head _ c _ hvalue hc
  have hplain : parseIpAddr (String.ofList (text.toList ++ ':' :: port)) = none := by
    have hahead := readIpv4Addr_within.ahead _ text.toList bits ':' port rfl hread
    unfold parseIpAddr parseWith
    rw [String.toList_ofList, readIpAddr_eq]
    dsimp only
    rw [hahead]
    rfl
  rcases socket_of_v4 text.toList bits port hread
    (by rw [hhead]; exact fun h => hbracket (Option.some.inj h)) with hsocket | hsocket
  · have hcount : (String.ofList (text.toList ++ ':' :: port)).toList.count ':' = 1 := by
      rw [String.toList_ofList, List.count_append, List.count_cons_self,
        List.count_eq_zero.mpr hcolon, List.count_eq_zero.mpr hport]
    rw [candidate_port raw _ htrim hnamed c _ hvalue hbracket hcount hplain hsocket]
    have hlast := rsplitOnce_append (· == ':') text.toList port ':'
      (fun x hx => beq_eq_false_iff_ne.mpr (ne_of_mem_of_not_mem hx hport)) rfl
    obtain ⟨parts, hparts, hfirst⟩ := Option.map_eq_some_iff.mp hlast
    rw [hparts, Option.bind_some, hfirst, String.ofList_toList, htext]
  · exact candidate_socket raw _ htrim hnamed _ hplain hsocket

/-- What starts with a bracket is not the text of an address. -/
theorem parseIpAddr_bracket (rest : List Char) :
    parseIpAddr (String.ofList ('[' :: rest)) = none := by
  unfold parseIpAddr parseWith
  rw [String.toList_ofList, readIpAddr_within.none_of_head _ '[' _ rfl rfl]

theorem read_bracketed (ip : IpAddr) (tail : List Char)
    (htrim : stripped raw = String.ofList ('[' :: text.toList ++ ']' :: tail))
    (htext : parseIpAddr text = some ip) : parseIpCandidate raw = some ip := by
  have hvalue : (String.ofList ('[' :: text.toList ++ ']' :: tail)).toList =
      '[' :: (text.toList ++ ']' :: tail) := String.toList_ofList
  have hnamed := named_of_ne _ '[' _ hvalue (by decide)
  have hplain := parseIpAddr_bracket (text.toList ++ ']' :: tail)
  have hsocket : parseSocketAddrIp (String.ofList ('[' :: text.toList ++ ']' :: tail)) = none ∨
      parseSocketAddrIp (String.ofList ('[' :: text.toList ++ ']' :: tail)) = some ip := by
    cases ip with
    | v4 bits =>
      exact Or.inl (socket_of_bracketed_v4 _ bits tail ((parseIpAddr_v4 text bits).mp htext))
    | v6 bits => exact socket_of_v6 _ bits tail ((parseIpAddr_v6 text bits).mp htext)
  rcases hsocket with hnone | hsome
  · have hcut : ∀ x ∈ text.toList, (x == ']') = false := fun x hx =>
      beq_eq_false_iff_ne.mpr (ne_of_mem_of_not_mem hx (not_mem_text text ip ']' htext rfl))
    rw [candidate_bracket raw _ htrim hnamed _ hvalue hplain hnone,
      splitOnce_append (· == ']') text.toList tail ']' hcut rfl, Option.bind_some,
      String.ofList_toList, htext]
  · exact candidate_socket raw _ htrim hnamed _ hplain hsome

theorem read_scoped (bits : BitVec 128) (scope port : List Char) (number : Fin (2 ^ 32))
    (portNumber : Fin (2 ^ 16))
    (hscope : readNumber 10 none true (2 ^ 32) scope = some (number, []))
    (hport : readNumber 10 none true (2 ^ 16) port = some (portNumber, []))
    (htrim : stripped raw =
      String.ofList ('[' :: text.toList ++ '%' :: scope ++ ']' :: ':' :: port))
    (htext : parseIpAddr text = some (.v6 bits)) : parseIpCandidate raw = some (.v6 bits) := by
  have hvalue : (String.ofList ('[' :: text.toList ++ '%' :: scope ++ ']' :: ':' :: port)).toList =
      '[' :: (text.toList ++ '%' :: (scope ++ ']' :: ':' :: port)) := by
    rw [String.toList_ofList, List.append_assoc, List.cons_append, List.cons_append]
  have hread := (parseIpAddr_v6 text bits).mp htext
  have hahead := readIpv6Addr_within.ahead _ text.toList bits '%' (scope ++ ']' :: ':' :: port) rfl
    hread
  have hv4 := readIpv4Addr_within.none_of_head _ '['
    (text.toList ++ '%' :: (scope ++ ']' :: ':' :: port)) rfl rfl
  have hscoped : readScopeId ('%' :: (scope ++ ']' :: ':' :: port)) =
      some (number, ']' :: ':' :: port) :=
    (decimal_within (2 ^ 32)).ahead _ scope number ']' (':' :: port) rfl hscope
  have hopen (rest : List Char) : readGivenChar '[' ('[' :: rest) = some ((), rest) := rfl
  have hclose (rest : List Char) : readGivenChar ']' (']' :: rest) = some ((), rest) := rfl
  have hcolon : readPort (':' :: port) = some (portNumber, []) := hport
  have hsocket : parseSocketAddrIp
      (String.ofList ('[' :: text.toList ++ '%' :: scope ++ ']' :: ':' :: port)) =
        some (.v6 bits) := by
    rw [parseSocketAddrIp, parseWith_eq_some, hvalue]
    unfold readSocketAddr
    rw [hv4]
    simp only [Option.bind_eq_bind, Option.bind_none, Option.bind_some, hopen, hahead, hscoped,
      Option.map_some, Option.getD_some, hclose, hcolon]
    rfl
  have hplain := parseIpAddr_bracket (text.toList ++ '%' :: (scope ++ ']' :: ':' :: port))
  rw [← hvalue, String.ofList_toList] at hplain
  exact candidate_socket raw _ htrim (named_of_ne _ '[' _ hvalue (by decide)) _ hplain hsocket

end Reading

/-! Whatever is read has one of the forms. -/

theorem head_of_readGivenChar (target : Char) (cs : List Char) (r : Unit × List Char)
    (h : readGivenChar target cs = some r) : cs = target :: r.2 := by
  cases cs with
  | nil => cases h
  | cons c rest =>
    simp only [readGivenChar] at h
    split_ifs at h with heq
    cases h
    rw [heq]

theorem colon_of_v4 (text : String) (bits : BitVec 32) (h : parseIpAddr text = some (.v4 bits)) :
    ':' ∉ text.toList := fun hmem => absurd (chars_of_v4 text bits h ':' hmem) (by decide)

theorem form_of_socket (value : String) (ip : IpAddr) (h : parseSocketAddrIp value = some ip) :
    AddressForm ip value.toList := by
  rw [parseSocketAddrIp, parseWith_eq_some] at h
  unfold readSocketAddr at h
  dsimp only at h
  split at h
  · next r hv4 =>
    cases h
    simp only [Option.bind_eq_bind, Option.bind_eq_some_iff] at hv4
    obtain ⟨⟨bits, mid⟩, hread, ⟨number, left⟩, hport, heq⟩ := hv4
    cases heq
    obtain ⟨colon, hcolon, hnumber⟩ := Option.bind_eq_some_iff.mp hport
    rw [head_of_readGivenChar ':' mid colon hcolon] at hread
    obtain ⟨taken, hvalue, htaken⟩ := readIpv4Addr_within.taken _ _ bits ':' colon.2 rfl hread
    obtain ⟨digits, hdigits, hall⟩ := (decimal_within (2 ^ 16)).takes colon.2 number [] hnumber
    have htext : parseIpAddr (String.ofList taken) = some (.v4 bits) := by
      rw [parseIpAddr_v4, String.toList_ofList]
      exact htaken
    have hform := AddressForm.ported (.v4 bits) (String.ofList taken) colon.2 htext
      (colon_of_v4 _ bits htext) (by
        intro hmem
        rw [hdigits, List.append_nil] at hmem
        exact absurd (hall ':' hmem) (by decide))
    rwa [String.toList_ofList, ← hvalue] at hform
  · simp only [Option.bind_eq_bind, Option.bind_eq_some_iff] at h
    obtain ⟨bracket, hopen, ⟨bits, mid⟩, hread, closing, hclose, ⟨number, left⟩, hport, heq⟩ := h
    cases heq
    have hcs := head_of_readGivenChar '[' value.toList bracket hopen
    cases hscope : readScopeId mid with
    | none =>
      rw [hscope] at hclose
      rw [head_of_readGivenChar ']' mid closing hclose] at hread
      obtain ⟨taken, hvalue, htaken⟩ := readIpv6Addr_within.taken _ _ bits ']' closing.2 rfl hread
      have htext : parseIpAddr (String.ofList taken) = some (.v6 bits) := by
        rw [parseIpAddr_v6, String.toList_ofList]
        exact htaken
      have hform := AddressForm.bracketed (.v6 bits) (String.ofList taken) closing.2 htext
      rwa [String.toList_ofList, List.cons_append, ← hvalue, ← hcs] at hform
    | some scope =>
      obtain ⟨scopeNumber, after⟩ := scope
      rw [hscope] at hclose
      have hafter := head_of_readGivenChar ']' after closing hclose
      obtain ⟨percent, hpercent, hnumber⟩ := Option.bind_eq_some_iff.mp hscope
      rw [head_of_readGivenChar '%' mid percent hpercent] at hread
      obtain ⟨taken, hvalue, htaken⟩ := readIpv6Addr_within.taken _ _ bits '%' percent.2 rfl hread
      rw [hafter] at hnumber
      obtain ⟨digits, hdigits, hdigit⟩ := (decimal_within (2 ^ 32)).taken _ _ scopeNumber ']'
        closing.2 rfl hnumber
      obtain ⟨colon, hcolon, hportNumber⟩ := Option.bind_eq_some_iff.mp hport
      have htail := head_of_readGivenChar ':' closing.2 colon hcolon
      have htext : parseIpAddr (String.ofList taken) = some (.v6 bits) := by
        rw [parseIpAddr_v6, String.toList_ofList]
        exact htaken
      have hform := AddressForm.scopedPort bits (String.ofList taken) digits colon.2 htext
        scopeNumber number hdigit hportNumber
      rwa [String.toList_ofList, ← htail, List.append_assoc, List.cons_append, List.cons_append,
        ← hdigits, ← hvalue, ← hcs] at hform

theorem form_of_candidate (raw : String) (ip : IpAddr) (h : parseIpCandidate raw = some ip) :
    AddressForm ip (stripped raw).toList := by
  unfold parseIpCandidate at h
  rw [← stripped] at h
  generalize stripped raw = value at h ⊢
  dsimp only at h
  split_ifs at h
  split at h
  · next found hplain =>
    obtain rfl := Option.some.inj h
    exact .bare found value hplain
  · split at h
    · next found hsocket =>
      obtain rfl := Option.some.inj h
      exact form_of_socket value found hsocket
    · split at h
      · next rest hvalue =>
        obtain ⟨⟨left, right⟩, hsplit, hread⟩ := Option.bind_eq_some_iff.mp h
        obtain ⟨c, hc, _, hrest⟩ := (splitOnce_eq_some _ _ left right).mp hsplit
        rw [String.toList_ofList] at hrest
        rw [hvalue, hrest, beq_iff_eq.mp hc]
        exact .bracketed ip left right.toList hread
      · split_ifs at h with hcount
        obtain ⟨⟨left, right⟩, hsplit, hread⟩ := Option.bind_eq_some_iff.mp h
        obtain ⟨c, hc, hright, hvalue⟩ := rsplitOnce_eq_some _ value left right hsplit
        rw [hvalue, beq_iff_eq.mp hc] at hcount ⊢
        rw [List.count_append, List.count_cons_self] at hcount
        have hleft : left.toList.count ':' = 0 := by omega
        have hback : right.toList.count ':' = 0 := by omega
        exact .ported ip left right.toList hread (List.count_eq_zero.mp hleft)
          (List.count_eq_zero.mp hback)

/-- A candidate is read as an address exactly when what is stripped of it has one of
the forms. -/
theorem candidate_iff (raw : String) (ip : IpAddr) :
    parseIpCandidate raw = some ip ↔ AddressForm ip (stripped raw).toList := by
  constructor
  · exact form_of_candidate raw ip
  · intro h
    generalize hvalue : (stripped raw).toList = value at h
    have htrim : stripped raw = String.ofList value := by rw [← hvalue, String.ofList_toList]
    cases h with
    | bare _ text htext =>
      rw [String.ofList_toList] at htrim
      exact read_bare raw text ip htrim htext
    | ported _ text port htext hcolon hport =>
      exact read_ported raw text ip port hcolon hport htrim htext
    | bracketed _ text tail htext => exact read_bracketed raw text ip tail htrim htext
    | scopedPort bits text scope port htext number portNumber hscope hport =>
      exact read_scoped raw text bits scope port number portNumber hscope hport htrim htext

end RedisBridge.ClientAddress
