import RedisBridge.ForwardedScan

/-!
How a `Forwarded` field is read. The quoted values decide: a pair is read by its
grammar exactly when no text behind a comma or semicolon inside its quotes poses as a
`for` pair, no backslash stands in the address of its node, and a node that is no
address does not look like one. So a field is read by its grammar exactly when every
pair up to the first `for` address is plain in this sense, or when it has bytes
outside ASCII and no address.
-/
namespace RedisBridge.Forwarded

open ClientAddress HeaderText IpAddress RustText SeparatedText TrimmedText

/-! The quotes of a value. -/

/-- The text of a value between its quotes. -/
def PairValue.body : PairValue → List Char
  | .token t => t.chars
  | .quoted chars => chars.flatMap QuotedChar.text

namespace PairValue

variable (value : PairValue)

/-- The text of a value adds backslashes to what it stands for. -/
theorem mem_body (c : Char) (hc : c ∈ value.body) : c ∈ value.content ∨ c = '\\' := by
  cases value with
  | token t => exact Or.inl hc
  | quoted chars =>
    obtain ⟨quoted, hquoted, hmem⟩ := List.mem_flatMap.mp hc
    have hcontent : quoted.content ∈ (PairValue.quoted chars).content := List.mem_map_of_mem hquoted
    cases quoted with
    | plain d hd =>
      obtain rfl := List.mem_singleton.mp hmem
      exact Or.inl hcontent
    | escaped d hd =>
      rcases List.mem_cons.mp hmem with rfl | hmem
      · exact Or.inr rfl
      · obtain rfl := List.mem_singleton.mp hmem
        exact Or.inl hcontent

theorem mem_text (c : Char) (hc : c ∈ value.text) : c ∈ value.body ∨ c = '"' := by
  cases value with
  | token t => exact Or.inl hc
  | quoted chars =>
    simp only [text, List.cons_append, List.mem_cons, List.mem_append, List.not_mem_nil,
      or_false] at hc
    rcases hc with rfl | hmem | rfl
    · exact Or.inr rfl
    · exact Or.inl hmem
    · exact Or.inr rfl

theorem head_body : value.body.head? = value.content.head? ∨ value.body.head? = some '\\' := by
  cases value with
  | token t => exact Or.inl rfl
  | quoted chars =>
    cases chars with
    | nil => exact Or.inl rfl
    | cons quoted rest =>
      cases quoted with
      | plain c hc => exact Or.inl rfl
      | escaped c hc => exact Or.inr rfl

/-- Up to a mark with no backslash before it the text is what it stands for. -/
theorem body_of_front (mark : Char) (hmark : mark ≠ '\\') (front back : List Char)
    (hfront : mark ∉ front) (hcontent : value.content = front ++ mark :: back)
    (h : '\\' ∉ value.body.takeWhile (· ≠ mark)) :
    ∃ more, value.body = front ++ mark :: more ∧ ∀ c ∈ more, c ∈ back ∨ c = '\\' := by
  cases value with
  | token t => exact ⟨back, hcontent, fun c hc => Or.inl hc⟩
  | quoted chars =>
    induction chars generalizing front with
    | nil =>
      have hne := List.append_ne_nil_of_right_ne_nil front (List.cons_ne_nil mark back)
      exact absurd hcontent hne.symm
    | cons quoted rest ih =>
      have hcons : quoted.content :: (PairValue.quoted rest).content = front ++ mark :: back :=
        hcontent
      cases quoted with
      | escaped c hc =>
        refine absurd ?_ h
        have hbody : (PairValue.quoted (.escaped c hc :: rest)).body =
            '\\' :: c :: (PairValue.quoted rest).body := rfl
        rw [hbody, List.takeWhile_cons_of_pos (p := fun c => decide (c ≠ mark))
          (decide_eq_true hmark.symm)]
        exact List.mem_cons_self
      | plain c hc =>
        have hbody : (PairValue.quoted (.plain c hc :: rest)).body =
            c :: (PairValue.quoted rest).body := rfl
        cases front with
        | nil =>
          obtain ⟨rfl, hback⟩ := List.cons.inj hcons
          refine ⟨(PairValue.quoted rest).body, hbody, ?_⟩
          intro d hd
          rw [← hback]
          exact (PairValue.quoted rest).mem_body d hd
        | cons d front =>
          obtain ⟨rfl, htail⟩ := List.cons.inj hcons
          have hne : c ≠ mark := fun heq => hfront (heq ▸ List.mem_cons_self)
          rw [hbody, List.takeWhile_cons_of_pos (p := fun c => decide (c ≠ mark))
            (decide_eq_true hne), List.mem_cons, not_or] at h
          obtain ⟨more, hmore, hchars⟩ := ih front
            (fun hmem => hfront (List.mem_cons_of_mem _ hmem)) htail h.2
          exact ⟨more, by rw [hbody, hmore]; rfl, hchars⟩

theorem body_of_free (mark : Char) (hmark : mark ≠ '\\') (hfree : mark ∉ value.content)
    (h : '\\' ∉ value.body.takeWhile (· ≠ mark)) : value.body = value.content := by
  have hbody : mark ∉ value.body := fun hmem =>
    (value.mem_body mark hmem).elim hfree hmark
  have hall : value.body.takeWhile (· ≠ mark) = value.body := by
    rw [List.takeWhile_eq_self_iff]
    exact fun c hc => decide_eq_true (ne_of_mem_of_not_mem hc hbody)
  rw [hall] at h
  cases value with
  | token t => rfl
  | quoted chars =>
    have hquoted : ∀ quoted ∈ chars, quoted.text = [quoted.content] := by
      intro quoted hmem
      cases quoted with
      | plain c hc => rfl
      | escaped c hc =>
        exact absurd (List.mem_flatMap.mpr ⟨_, hmem, List.mem_cons_self⟩) h
    have hchars : chars.flatMap QuotedChar.text = chars.map QuotedChar.content := by
      rw [List.map_eq_flatMap]
      exact List.flatMap_congr hquoted
    exact hchars

end PairValue

/-! The node of an address. -/

theorem forms_of_node (node : List Char) (ip : IpAddr) (h : nodeAddress node = some ip) :
    (∃ (text : String) (tail : List Char), node = '[' :: text.toList ++ ']' :: tail ∧
      parseIpAddr text = some ip ∧ isPortTail tail = true) ∨
    (∃ (text : String) (bits : BitVec 32), parseIpAddr text = some (.v4 bits) ∧ ip = .v4 bits ∧
      (node = text.toList ∨ ∃ port, node = text.toList ++ ':' :: port ∧ isPort port = true)) := by
  have hv4 (text : String) (hfilter : (parseIpAddr text).filter IpAddr.isV4 = some ip) :
      ∃ bits, parseIpAddr text = some (.v4 bits) ∧ ip = .v4 bits := by
    obtain ⟨hparse, hkind⟩ := Option.filter_eq_some_iff.mp hfilter
    cases ip with
    | v4 bits => exact ⟨bits, hparse, rfl⟩
    | v6 bits => cases hkind
  unfold nodeAddress at h
  split at h
  · next rest =>
    obtain ⟨⟨text, tail⟩, hsplit, hread⟩ := Option.bind_eq_some_iff.mp h
    obtain ⟨d, hd, _, hrest⟩ := (splitOnce_eq_some _ _ text tail).mp hsplit
    rw [String.toList_ofList, beq_iff_eq.mp hd] at hrest
    split_ifs at hread with htail
    left
    exact ⟨text, tail.toList, by rw [hrest]; rfl, (Option.filter_eq_some_iff.mp hread).1, htail⟩
  · right
    split at h
    · obtain ⟨bits, hparse, hip⟩ := hv4 _ h
      exact ⟨String.ofList node, bits, hparse, hip, Or.inl String.toList_ofList.symm⟩
    · next text port hsplit =>
      obtain ⟨d, hd, _, hnode⟩ := (splitOnce_eq_some _ _ text port).mp hsplit
      rw [String.toList_ofList, beq_iff_eq.mp hd] at hnode
      split_ifs at h with hport
      obtain ⟨bits, hparse, hip⟩ := hv4 text h
      exact ⟨text, bits, hparse, hip, Or.inr ⟨port.toList, hnode, hport⟩⟩

/-- The characters of a node that is an address. -/
def isNodeChar (c : Char) : Bool := isV6Char c || isPortChar c || c == '[' || c == ']'

theorem nodeChar_clean (c : Char) (h : isNodeChar c = true) :
    isSeparator c = false ∧ isWhitespace c = false ∧ (c == '"') = false := by
  have hascii : c.toNat < 128 := by
    have hkinds := h
    simp only [isNodeChar, Bool.or_eq_true, beq_iff_eq] at hkinds
    rcases hkinds with ((haddress | hport) | rfl) | rfl
    · exact v6Char_ascii c haddress
    · exact portChar_ascii c hport
    · decide
    · decide
  exact of_ascii (fun c => isNodeChar c = true →
    isSeparator c = false ∧ isWhitespace c = false ∧ (c == '"') = false) (by decide) c hascii h

theorem portChars_of_port (port : List Char) (h : isPort port = true) :
    ∀ c ∈ port, isPortChar c = true := by
  intro c hc
  unfold isPort at h
  rw [Bool.or_eq_true] at h
  rcases h with hdigits | hname
  · rw [Bool.and_eq_true] at hdigits
    have hdigit := List.all_eq_true.mp hdigits.2 c hc
    simp [isPortChar, Char.isAlphanum, hdigit]
  · split at hname
    · rw [Bool.and_eq_true] at hname
      rcases List.mem_cons.mp hc with rfl | hmem
      · rfl
      · exact List.all_eq_true.mp hname.2 c hmem
    · cases hname

theorem nodeChars_of_node (node : List Char) (ip : IpAddr) (h : nodeAddress node = some ip) :
    ∀ c ∈ node, isNodeChar c = true := by
  have haddress (text : String) (ip : IpAddr) (hparse : parseIpAddr text = some ip) (c : Char)
      (hc : c ∈ text.toList) : isNodeChar c = true := by
    simp [isNodeChar, (chars_of_parseIpAddr text ip hparse).2 c hc]
  have hport (port : List Char) (hport : isPort port = true) (c : Char) (hc : c ∈ port) :
      isNodeChar c = true := by
    simp [isNodeChar, portChars_of_port port hport c hc]
  intro c hc
  rcases forms_of_node node ip h with ⟨text, tail, rfl, hparse, htail⟩ |
    ⟨text, bits, hparse, _, rfl | ⟨port, rfl, hp⟩⟩
  · simp only [List.cons_append, List.mem_cons, List.mem_append] at hc
    rcases hc with rfl | hmem | rfl | hmem
    · rfl
    · exact haddress text ip hparse c hmem
    · rfl
    · unfold isPortTail at htail
      split at htail
      · cases hmem
      · next port =>
        rcases List.mem_cons.mp hmem with rfl | hmem
        · rfl
        · exact hport port htail c hmem
      · cases htail
  · exact haddress text _ hparse c hc
  · rcases List.mem_append.mp hc with hmem | hmem
    · exact haddress text _ hparse c hmem
    · rcases List.mem_cons.mp hmem with rfl | hmem
      · rfl
      · exact hport port hp c hmem

/-- Where the address of a node ends: at its bracket, or before its port. -/
def addressEnd (node : List Char) : Char := if node.head? = some '[' then ']' else ':'

theorem addressEnd_text (text : String) (ip : IpAddr) (tail : List Char)
    (h : parseIpAddr text = some ip) : addressEnd (text.toList ++ tail) = ':' := by
  obtain ⟨c, rest, htext, hc⟩ := head_of_text text ip h
  have hne : c ≠ '[' := v6Char_ne c '[' hc rfl
  unfold addressEnd
  rw [if_neg]
  rw [htext]
  exact fun heq => hne (Option.some.inj heq)

/-! The value of a pair whose node is an address. -/

/-- No blanks, and the quotes of a value around it. -/
def quotes (count : ℕ) : Padding :=
  ⟨[], count, count, [], fun _ h => absurd h List.not_mem_nil, fun _ h => absurd h List.not_mem_nil⟩

namespace PairValue

variable (value : PairValue)

/-- Only the quotes around a value are stripped, when its text has neither blanks nor quotes. -/
theorem stripped_text (h : ∀ c ∈ value.body, isWhitespace c = false ∧ (c == '"') = false) :
    stripped (String.ofList value.text) = String.ofList value.body := by
  have hpad (count : ℕ) : stripped ((quotes count).around value.body) = String.ofList value.body :=
    (quotes count).trimmed_around value.body (clear_of_forall _ _ (fun c hc => (h c hc).1))
      (clear_of_forall _ _ (fun c hc => (h c hc).2))
  cases value with
  | token t =>
    have htext := hpad 0
    rwa [Padding.around, Padding.quoted, quotes, List.nil_append, List.append_nil,
      List.replicate_zero, List.nil_append, List.append_nil] at htext
  | quoted chars =>
    have htext := hpad 1
    rwa [Padding.around, Padding.quoted, quotes, List.nil_append, List.append_nil,
      List.replicate_one] at htext

variable (ip : IpAddr) (hnode : nodeAddress value.content = some ip)

include hnode

theorem body_clean : ∀ c ∈ value.body,
    isSeparator c = false ∧ isWhitespace c = false ∧ (c == '"') = false := by
  intro c hc
  rcases value.mem_body c hc with hcontent | rfl
  · exact nodeChar_clean c (nodeChars_of_node _ ip hnode c hcontent)
  · decide

theorem pieces_of_node : value.pieces = [value.text] := by
  apply List.splitOnP_eq_singleton
  intro c hc
  rcases value.mem_text c hc with hbody | rfl
  · exact (value.body_clean ip hnode c hbody).1
  · rfl

/-- With no backslash before its end the address is read. -/
theorem form_of_plain (h : '\\' ∉ value.body.takeWhile (· ≠ addressEnd value.content)) :
    AddressForm ip value.body := by
  rcases forms_of_node _ ip hnode with ⟨text, tail, hcontent, hparse, _⟩ |
    ⟨text, bits, hparse, rfl, hcontent⟩
  · have hend : addressEnd value.content = ']' := by
      rw [hcontent]
      rfl
    have hfront : ']' ∉ '[' :: text.toList :=
      List.not_mem_cons_of_ne_of_not_mem (by decide) (not_mem_text text ip ']' hparse rfl)
    rw [hend] at h
    obtain ⟨more, hbody, _⟩ := value.body_of_front ']' (by decide) _ tail hfront hcontent h
    rw [hbody]
    exact .bracketed ip text more hparse
  · have hcolon := colon_of_v4 text bits hparse
    rcases hcontent with hcontent | ⟨port, hcontent, hport⟩
    · have hend := addressEnd_text text _ [] hparse
      rw [List.append_nil, ← hcontent] at hend
      rw [hend] at h
      rw [value.body_of_free ':' (by decide) (hcontent ▸ hcolon) h, hcontent]
      exact .bare _ text hparse
    · have hend := addressEnd_text text _ (':' :: port) hparse
      rw [← hcontent] at hend
      rw [hend] at h
      obtain ⟨more, hbody, hmore⟩ := value.body_of_front ':' (by decide) _ port hcolon hcontent h
      rw [hbody]
      refine .ported _ text more hparse hcolon ?_
      intro hmem
      rcases hmore ':' hmem with hmem | heq
      · exact absurd (portChars_of_port port hport ':' hmem) (by decide)
      · cases heq

omit hnode in
/-- A backslash before the end of the address spoils every form. -/
theorem plain_of_form (h : AddressForm ip value.body) :
    '\\' ∉ value.body.takeWhile (· ≠ addressEnd value.content) := by
  intro hslash
  have hbody := (List.takeWhile_prefix _).subset hslash
  have htext (text : String) (ip : IpAddr) (hparse : parseIpAddr text = some ip) :
      '\\' ∉ text.toList := not_mem_text text ip '\\' hparse rfl
  have hdigits (bound : ℕ) (digits : List Char) (number : Fin bound)
      (hread : readNumber 10 none true bound digits = some (number, [])) : '\\' ∉ digits := by
    obtain ⟨taken, htaken, hall⟩ := (decimal_within bound).takes digits number [] hread
    rw [htaken, List.append_nil]
    exact fun hmem => absurd (hall _ hmem) (by decide)
  have hhead := value.head_body
  generalize value.body = body at h hslash hbody hhead
  cases h with
  | bare _ text hparse => exact htext text ip hparse hbody
  | ported _ text port hparse hcolon hport =>
    obtain ⟨c, rest, hchars, hc⟩ := head_of_text text ip hparse
    have hend : addressEnd value.content = ':' := by
      unfold addressEnd
      rw [if_neg]
      intro hbracket
      rw [hbracket, hchars] at hhead
      rcases hhead with heq | heq
      · exact v6Char_ne c '[' hc rfl (Option.some.inj heq)
      · exact v6Char_ne c '\\' hc rfl (Option.some.inj heq)
    rw [hend, List.takeWhile_append_of_pos
      (fun c hc => decide_eq_true (ne_of_mem_of_not_mem hc hcolon)),
      List.takeWhile_cons_of_neg (by decide), List.append_nil] at hslash
    exact htext text ip hparse hslash
  | bracketed _ text tail hparse =>
    have hend : addressEnd value.content = ']' := by
      rcases hhead with heq | heq
      · exact if_pos heq.symm
      · cases heq
    have hclear : ']' ∉ '[' :: text.toList :=
      List.not_mem_cons_of_ne_of_not_mem (by decide) (not_mem_text text ip ']' hparse rfl)
    rw [hend, List.takeWhile_append_of_pos
      (fun c hc => decide_eq_true (ne_of_mem_of_not_mem hc hclear)),
      List.takeWhile_cons_of_neg (by decide), List.append_nil] at hslash
    rcases List.mem_cons.mp hslash with heq | hmem
    · cases heq
    · exact htext text ip hparse hmem
  | scopedPort bits text scope port hparse number portNumber hscope hport =>
    simp only [List.cons_append, List.mem_cons, List.mem_append] at hbody
    rcases hbody with heq | (hmem | heq | hmem) | heq | heq | hmem
    · cases heq
    · exact htext text _ hparse hmem
    · cases heq
    · exact hdigits _ scope number hscope hmem
    · cases heq
    · cases heq
    · exact hdigits _ port portNumber hport hmem

theorem read_node : parseIpCandidate (String.ofList value.text) = some ip ↔
    '\\' ∉ value.body.takeWhile (· ≠ addressEnd value.content) := by
  rw [candidate_iff, value.stripped_text (fun c hc => (value.body_clean ip hnode c hc).2),
    String.toList_ofList]
  exact ⟨value.plain_of_form ip, value.form_of_plain ip hnode⟩

end PairValue

/-! Plain pairs. -/

/-- A text that is a name and an address, and the name is `for`. -/
def PosesAsFor (piece : List Char) : Prop :=
  ∃ key value ip, piece = key ++ '=' :: value ∧ '=' ∉ key ∧
    eqIgnoreAsciiCase (trim (String.ofList key)) "for" = true ∧
    AddressForm ip (stripped (String.ofList value)).toList

theorem part_eq_none (piece : List Char) : part piece = none ↔ ¬PosesAsFor piece := by
  constructor
  · intro hnone hposes
    obtain ⟨key, value, ip, rfl, hkey, hfor, hform⟩ := hposes
    rw [part_equals key value hkey, if_pos hfor, (candidate_iff _ ip).mpr hform] at hnone
    cases hnone
  · intro hposes
    by_cases hequals : '=' ∈ piece
    · obtain ⟨key, value, rfl, hkey⟩ := List.eq_append_cons_of_mem hequals
      rw [part_equals key value hkey]
      split_ifs with hfor
      · rw [Option.eq_none_iff_forall_ne_some]
        intro ip hread
        exact hposes ⟨key, value, ip, rfl, hkey, hfor, (candidate_iff _ ip).mp hread⟩
      · rfl
    · exact part_no_equals piece hequals

/-- The quotes of a pair hide nothing from the reading: no text behind a comma or
semicolon poses as a `for` pair, the address of a `for` pair is free of backslashes,
and what a `for` pair has in place of an address has none of the forms of one. -/
structure Pair.Plain (pair : Pair) : Prop where
  behind : ∀ piece ∈ pair.value.pieces.tail, ¬PosesAsFor piece
  address : pair.IsFor → nodeAddress pair.value.content ≠ none →
    '\\' ∉ pair.value.body.takeWhile (· ≠ addressEnd pair.value.content)
  other : pair.IsFor → nodeAddress pair.value.content = none →
    ∀ ip, ¬AddressForm ip (stripped (String.ofList (pair.value.pieces.headD []))).toList

/-- A pair gives what its node says exactly when it is plain. -/
theorem Pair.reading_iff (pair : Pair) : pair.reading = pair.forAddress ↔ pair.Plain := by
  have hbehind : pair.value.pieces.tail.findSome? part = none ↔
      ∀ piece ∈ pair.value.pieces.tail, ¬PosesAsFor piece := by
    simp only [List.findSome?_eq_none_iff, part_eq_none]
  rw [pair.reading_eq, forAddress]
  by_cases hfor : pair.IsFor
  · rw [if_pos hfor, if_pos hfor]
    cases hnode : nodeAddress pair.value.content with
    | some ip =>
      have hone := pair.value.pieces_of_node ip hnode
      have hnothing : ∀ piece ∈ pair.value.pieces.tail, ¬PosesAsFor piece := by
        rw [hone]
        exact fun _ h => absurd h List.not_mem_nil
      rw [hone, List.tail_cons, List.findSome?_nil, Option.or_none, List.headD_cons,
        pair.value.read_node ip hnode]
      constructor
      · intro h
        refine ⟨hnothing, fun _ _ => h, ?_⟩
        intro _ hnone
        rw [hnode] at hnone
        cases hnone
      · intro h
        refine h.address hfor ?_
        rw [hnode]
        exact Option.some_ne_none ip
    | none =>
      have hfirst : parseIpCandidate (String.ofList (pair.value.pieces.headD [])) = none ↔
          ∀ ip, ¬AddressForm ip (stripped (String.ofList (pair.value.pieces.headD []))).toList := by
        rw [Option.eq_none_iff_forall_ne_some]
        exact forall_congr' (fun ip => not_congr (candidate_iff _ ip))
      rw [Option.or_eq_none_iff, hfirst, hbehind]
      constructor
      · intro h
        exact ⟨h.2, fun _ hsome => absurd hnode hsome, fun _ _ => h.1⟩
      · intro h
        exact ⟨h.other hfor hnode, h.behind⟩
  · rw [if_neg hfor, if_neg hfor, Option.none_or, hbehind]
    constructor
    · intro h
      exact ⟨h, fun hyes => absurd hyes hfor, fun hyes => absurd hyes hfor⟩
    · intro h
      exact h.behind

/-! Tokens are plain. -/

/-- A token is an address only as the text of an IPv4 address. -/
theorem nodeAddress_token (token : Token) :
    nodeAddress token.chars = parseIpAddr (String.ofList token.chars) := by
  have hv4 : (parseIpAddr (String.ofList token.chars)).filter IpAddr.isV4 =
      parseIpAddr (String.ofList token.chars) := by
    cases hparse : parseIpAddr (String.ofList token.chars) with
    | none => rfl
    | some ip =>
      cases ip with
      | v4 bits => rfl
      | v6 bits =>
        have hread := (parseIpAddr_v6 _ bits).mp hparse
        rw [String.toList_ofList] at hread
        exact absurd (colon_of_readIpv6Addr _ _ hread) (token.not_mem ':' rfl)
  have hcut : splitOnce (· == ':') (String.ofList token.chars) = none := by
    apply splitOnce_eq_none
    rw [String.toList_ofList]
    exact fun c hc => beq_eq_false_iff_ne.mpr (ne_of_mem_of_not_mem hc (token.not_mem ':' rfl))
  unfold nodeAddress
  split
  · next rest heq => exact absurd (heq ▸ List.mem_cons_self) (token.not_mem '[' rfl)
  · rw [hcut]
    exact hv4

/-- So only quoted values can be misread. -/
theorem plain_token (name token : Token) : (Pair.mk name (.token token)).Plain := by
  have hpieces : (PairValue.token token).pieces = [token.chars] := by
    apply List.splitOnP_eq_singleton
    intro c hc
    exact (tchar_plain c (token.tchars c hc)).2.2
  have hstripped : stripped (String.ofList token.chars) = String.ofList token.chars :=
    (PairValue.token token).stripped_text (by
      intro c hc
      refine ⟨(tchar_plain c (token.tchars c hc)).2.1, ?_⟩
      exact beq_eq_false_iff_ne.mpr (ne_of_mem_of_not_mem hc (token.not_mem '"' rfl)))
  constructor
  · rw [hpieces]
    exact fun _ h => absurd h List.not_mem_nil
  · intro _ _ hslash
    exact token.not_mem '\\' rfl ((List.takeWhile_prefix _).subset hslash)
  · intro _ hnone ip hform
    have hcolon := token.not_mem ':' rfl
    have hbracket := token.not_mem '[' rfl
    have hread := nodeAddress_token token
    rw [hpieces, List.headD_cons, hstripped, String.toList_ofList] at hform
    have hnode : parseIpAddr (String.ofList token.chars) = none := hread.symm.trans hnone
    generalize token.chars = chars at hform hcolon hbracket hnode
    cases hform with
    | bare _ text hparse =>
      rw [String.ofList_toList, hparse] at hnode
      cases hnode
    | ported _ text port _ _ _ =>
      exact hcolon (List.mem_append_right _ List.mem_cons_self)
    | bracketed _ text tail _ => exact hbracket List.mem_cons_self
    | scopedPort bits text scope port _ _ _ _ _ => exact hbracket List.mem_cons_self

/-! A field. -/

namespace Field

variable (field : Field)

/-- What the code makes of a field. -/
theorem forwardedHeaderIp_eq : forwardedHeaderIp field.headers =
    if field.text.any isObsText = true then none else field.pairs.findSome? Pair.reading := by
  rw [forwardedHeaderIp_headers, scan_text]

/-- The pair that the code takes the address from. -/
def source : Option Pair :=
  if field.text.any isObsText = true then none
  else field.pairs.find? (fun pair => pair.reading.isSome)

/-- What the code returns is what it reads in that pair. -/
theorem forwardedHeaderIp_source :
    forwardedHeaderIp field.headers = field.source.bind Pair.reading := by
  rw [forwardedHeaderIp_eq, source]
  split_ifs
  · rfl
  · exact findSome?_eq_find? Pair.reading field.pairs

/-- The first `for` pair whose node is an address. -/
def forPair : Option Pair := field.pairs.find? (fun pair => pair.forAddress.isSome)

/-- The address of the first `for` pair is returned, and taken from no other pair. -/
structure ReadByGrammar : Prop where
  address : forwardedHeaderIp field.headers = field.forAddress
  source : field.source = field.forPair

/-- A field without bytes outside ASCII has plain pairs up to the first `for`
address, and any other field has no such address. -/
structure Readable : Prop where
  visible : field.Opaque → field.forAddress = none
  plain : ¬field.Opaque → ∀ before pair after, field.pairs = before ++ pair :: after →
    (∀ p ∈ before, p.forAddress = none) → pair.Plain

theorem forPair_eq_none : field.forPair = none ↔ field.forAddress = none := by
  unfold forPair forAddress
  rw [List.find?_eq_none, List.findSome?_eq_none_iff]
  exact forall₂_congr (fun pair _ => Option.not_isSome_iff_eq_none)

/-- A field is read by its grammar exactly when it is readable. -/
theorem forwarded_read_iff : field.ReadByGrammar ↔ field.Readable := by
  have hboth : field.ReadByGrammar ↔ forwardedHeaderIp field.headers = field.forAddress ∧
      field.source = field.forPair := ⟨fun h => ⟨h.1, h.2⟩, fun h => ⟨h.1, h.2⟩⟩
  have hreadable : field.Readable ↔ (field.Opaque → field.forAddress = none) ∧
      (¬field.Opaque → ∀ before pair after, field.pairs = before ++ pair :: after →
        (∀ p ∈ before, p.forAddress = none) → pair.Plain) :=
    ⟨fun h => ⟨h.1, h.2⟩, fun h => ⟨h.1, h.2⟩⟩
  rw [hboth, hreadable, forwardedHeaderIp_eq, source]
  by_cases hopaque : field.text.any isObsText = true
  · have hvisible : field.Opaque := hopaque
    rw [if_pos hopaque, if_pos hopaque, eq_comm, eq_comm (a := none), forPair_eq_none, and_self]
    exact ⟨fun h => ⟨fun _ => h, fun hnot => absurd hvisible hnot⟩, fun h => h.1 hvisible⟩
  · have hvisible : ¬field.Opaque := hopaque
    have hagree := search_agree_iff Pair.reading Pair.forAddress field.pairs
    simp only [Pair.reading_iff] at hagree
    rw [if_neg hopaque, if_neg hopaque, forAddress, forPair, hagree]
    exact ⟨fun h => ⟨fun hyes => absurd hyes hvisible, fun _ => h⟩, fun h => h.2 hvisible⟩

end Field

/-! Three fields. -/

def forToken : Token := ⟨"for".toList, by decide, List.all_eq_true.mp (by decide)⟩

def hostToken : Token := ⟨"host".toList, by decide, List.all_eq_true.mp (by decide)⟩

def byToken : Token := ⟨"by".toList, by decide, List.all_eq_true.mp (by decide)⟩

/-- A quoted value with no character escaped. -/
def quotedText (text : List Char) (h : text.all isQdtext = true) : PairValue :=
  .quoted (text.attach.map (fun c => .plain c.val (List.all_eq_true.mp h c.val c.property)))

/-- `host="a, b;c=d";for="[2001:db8::17]:4711"` -/
def quotedField : Field :=
  ⟨some ⟨hostToken, quotedText "a, b;c=d".toList (by decide)⟩,
    [(.semicolon, some ⟨forToken, quotedText "[2001:db8::17]:4711".toList (by decide)⟩)]⟩

/-- `host="a,for=1.2.3.4";by="é"` -/
def opaqueField : Field :=
  ⟨some ⟨hostToken, quotedText "a,for=1.2.3.4".toList (by decide)⟩,
    [(.semicolon, some ⟨byToken, quotedText "é".toList (by decide)⟩)]⟩

/-- `host="a,for=1.2.3.4";for=5.6.7.8` -/
def smuggledField : Field :=
  ⟨some ⟨hostToken, quotedText "a,for=1.2.3.4".toList (by decide)⟩,
    [(.semicolon, some ⟨forToken,
      .token ⟨"5.6.7.8".toList, by decide, List.all_eq_true.mp (by decide)⟩⟩)]⟩

example : quotedField.forAddress = some (.v6 0x20010DB8000000000000000000000017) := by decide

namespace Field

theorem quoted_readable : quotedField.Readable := by
  constructor
  · intro h
    have hobs : quotedField.text.any isObsText = true := h
    exact absurd hobs (by decide)
  · intro _ before pair after hpairs _
    have hpair : pair ∈ quotedField.pairs := by
      rw [hpairs]
      exact List.mem_append_right _ List.mem_cons_self
    apply pair.reading_iff.mp
    rcases List.mem_cons.mp hpair with rfl | hpair
    · decide
    · rw [List.mem_singleton.mp hpair]
      decide

theorem opaque_readable : opaqueField.Readable := by
  constructor
  · intro _
    decide
  · intro hvisible
    have hobs : opaqueField.text.any isObsText = true := by decide
    exact absurd hobs hvisible

/-- The address behind the quoted `host` is read, with its port; and a field with a
byte outside ASCII is not, whatever is in its quotes. -/
theorem forwarded_read_quoted :
    forwardedHeaderIp quotedField.headers = some (.v6 0x20010DB8000000000000000000000017) ∧
    forwardedHeaderIp opaqueField.headers = none :=
  ⟨((forwarded_read_iff quotedField).mpr quoted_readable).address,
    ((forwarded_read_iff opaqueField).mpr opaque_readable).address⟩

/-- The address in the quoted `host` is taken for that of the client. -/
theorem smuggled_address : ¬∀ field : Field,
    forwardedHeaderIp field.headers = field.forAddress := by
  intro h
  exact absurd (h smuggledField) (by decide)

end Field

end RedisBridge.Forwarded
