import RedisBridge.AddressForms

/-!
The renderings of a client address. An address is read from its text, from an
IPv4 text with a port, and from an IPv6 text in brackets with or without one,
inside quotes and blanks; the port need not be a number. Whatever is read as an
address, some piece of the text is the text of that address.
-/
namespace RedisBridge.ClientAddress

open IpAddress RustText TrimmedText

/-! The padding: quotes, and blanks around them. -/

structure Padding where
  left : List Char
  opening : ℕ
  closing : ℕ
  right : List Char
  left_blank : ∀ c ∈ left, isWhitespace c = true
  right_blank : ∀ c ∈ right, isWhitespace c = true

namespace Padding

variable (padding : Padding)

def quoted (body : List Char) : List Char :=
  List.replicate padding.opening '"' ++ body ++ List.replicate padding.closing '"'

/-- The text with quotes around it, and blanks around these. -/
def around (body : List Char) : String :=
  String.ofList (padding.left ++ padding.quoted body ++ padding.right)

theorem quoted_clear (body : List Char) (hbody : Clear isWhitespace body) :
    Clear isWhitespace (padding.quoted body) := by
  have hquote (n : ℕ) (c : Char) (hc : c ∈ List.replicate n '"') : isWhitespace c = false := by
    rw [List.eq_of_mem_replicate hc]
    decide
  unfold quoted
  constructor
  · intro c hc
    rw [List.append_assoc, List.head?_append, List.head?_append] at hc
    rcases Option.or_eq_some_iff.mp hc with hopening | ⟨_, hrest⟩
    · exact hquote _ c (List.mem_of_head? hopening)
    · rcases Option.or_eq_some_iff.mp hrest with hhead | ⟨_, hclosing⟩
      · exact hbody.head c hhead
      · exact hquote _ c (List.mem_of_head? hclosing)
  · intro c hc
    rw [List.getLast?_append, List.getLast?_append] at hc
    rcases Option.or_eq_some_iff.mp hc with hclosing | ⟨_, hrest⟩
    · exact hquote _ c (List.mem_of_getLast? hclosing)
    · rcases Option.or_eq_some_iff.mp hrest with hlast | ⟨_, hopening⟩
      · exact hbody.last c hlast
      · exact hquote _ c (List.mem_of_getLast? hopening)

/-- Padding is trimmed away. -/
theorem trimmed_around (body : List Char) (hblank : Clear isWhitespace body)
    (hquote : Clear (· == '"') body) :
    stripped (padding.around body) = String.ofList body := by
  have hquotes (n : ℕ) (c : Char) (hc : c ∈ List.replicate n '"') : (c == '"') = true := by
    rw [List.eq_of_mem_replicate hc]
    rfl
  rw [stripped, around, trim, trimMatches_pad isWhitespace _ _ _ padding.left_blank
    padding.right_blank (padding.quoted_clear body hblank)]
  exact trimMatches_pad _ _ _ _ (hquotes _) (hquotes _) hquote

end Padding

/-! The forms. -/

/-- What may stand behind the colon of a port: no colon, quote or blank. -/
def PortToken (port : List Char) : Prop :=
  ∀ c ∈ port, c ≠ ':' ∧ c ≠ '"' ∧ isWhitespace c = false

/-- The forms of an address whose text is given. -/
inductive Legal (text : List Char) : IpAddr → List Char → Prop
  | plain (ip : IpAddr) : Legal text ip text
  | port (bits : BitVec 32) (port : List Char) (h : PortToken port) :
      Legal text (.v4 bits) (text ++ ':' :: port)
  | bracketed (bits : BitVec 128) : Legal text (.v6 bits) ('[' :: text ++ [']'])
  | bracketedPort (bits : BitVec 128) (port : List Char) (h : PortToken port) :
      Legal text (.v6 bits) ('[' :: text ++ ']' :: ':' :: port)

theorem legal_clean (text : String) (ip : IpAddr) (body : List Char)
    (htext : parseIpAddr text = some ip) (h : Legal text.toList ip body) :
    ∀ c ∈ body, isWhitespace c = false ∧ (c == '"') = false := by
  have hplain (c : Char) (hc : c ∈ text.toList) : isWhitespace c = false ∧ (c == '"') = false := by
    have hchar := (chars_of_parseIpAddr text ip htext).2 c hc
    exact ⟨v6Char_clear c hchar, beq_eq_false_iff_ne.mpr (v6Char_ne c '"' hchar rfl)⟩
  have hport (port : List Char) (h : PortToken port) (c : Char) (hc : c ∈ port) :
      isWhitespace c = false ∧ (c == '"') = false :=
    ⟨(h c hc).2.2, beq_eq_false_iff_ne.mpr (h c hc).2.1⟩
  have hmarks : ∀ c ∈ [':', '[', ']'], isWhitespace c = false ∧ (c == '"') = false := by
    have hclean : [':', '[', ']'].any (fun c => isWhitespace c || c == '"') = false := rfl
    intro c hc
    exact Bool.or_eq_false_iff.mp (Bool.eq_false_iff.mpr (List.any_eq_false.mp hclean c hc))
  intro c hc
  cases h with
  | plain => exact hplain c hc
  | port bits port hp =>
    simp only [List.mem_append, List.mem_cons] at hc
    rcases hc with hc | rfl | hc
    · exact hplain c hc
    · exact hmarks _ (by decide)
    · exact hport port hp c hc
  | bracketed bits =>
    simp only [List.cons_append, List.mem_cons, List.mem_append, List.not_mem_nil, or_false] at hc
    rcases hc with rfl | hc | rfl
    · exact hmarks _ (by decide)
    · exact hplain c hc
    · exact hmarks _ (by decide)
  | bracketedPort bits port hp =>
    simp only [List.cons_append, List.mem_cons, List.mem_append] at hc
    rcases hc with rfl | hc | rfl | rfl | hc
    · exact hmarks _ (by decide)
    · exact hplain c hc
    · exact hmarks _ (by decide)
    · exact hmarks _ (by decide)
    · exact hport port hp c hc

/-- Every legal form of an address is one in which it is read. -/
theorem form_of_legal (text : String) (ip : IpAddr) (body : List Char)
    (htext : parseIpAddr text = some ip) (h : Legal text.toList ip body) : AddressForm ip body := by
  cases h with
  | plain => exact .bare ip text htext
  | port bits port hport =>
    exact .ported _ text port htext (colon_of_v4 text bits htext)
      (fun hcolon => (hport ':' hcolon).1 rfl)
  | bracketed bits => exact .bracketed _ text [] htext
  | bracketedPort bits port hport => exact .bracketed _ text (':' :: port) htext

/-- Every form of an address has its text in it. -/
theorem piece_of_form (ip : IpAddr) (chars : List Char) (h : AddressForm ip chars) :
    ∃ piece, piece <:+: chars ∧ parseIpAddr (String.ofList piece) = some ip := by
  have htext (text : String) (hparse : parseIpAddr text = some ip) :
      parseIpAddr (String.ofList text.toList) = some ip := by rwa [String.ofList_toList]
  cases h with
  | bare _ text hparse => exact ⟨text.toList, List.infix_rfl, htext text hparse⟩
  | ported _ text port hparse _ _ =>
    exact ⟨text.toList, (List.prefix_append _ _).isInfix, htext text hparse⟩
  | bracketed _ text tail hparse =>
    exact ⟨text.toList, ⟨['['], ']' :: tail, rfl⟩, htext text hparse⟩
  | scopedPort bits text scope port hparse _ _ _ _ =>
    refine ⟨text.toList, ⟨['['], '%' :: scope ++ ']' :: ':' :: port, ?_⟩, htext text hparse⟩
    simp

theorem piece_of_candidate (raw : String) (ip : IpAddr) (h : parseIpCandidate raw = some ip) :
    ∃ piece, piece <:+: raw.toList ∧ parseIpAddr (String.ofList piece) = some ip := by
  have hinfix : (stripped raw).toList <:+: raw.toList :=
    (trimMatches_isInfix _ _).trans (trimMatches_isInfix _ raw)
  obtain ⟨piece, hpiece, hread⟩ := piece_of_form ip _ ((candidate_iff raw ip).mp h)
  exact ⟨piece, hpiece.trans hinfix, hread⟩
/-- The renderings of a client address: an address is read from every form that is
legal for its family, padded with quotes and blanks; whatever is read, a piece of
the text is the text of the address; blank texts and `unknown` are no address. -/
theorem renderings_round_trip (display : IpAddr → String) :
    (∀ ip, parseIpAddr (display ip) = some ip → ∀ body, Legal (display ip).toList ip body →
      ∀ padding : Padding, parseIpCandidate (padding.around body) = some ip) ∧
    (∀ raw ip, parseIpCandidate raw = some ip →
      ∃ piece, piece <:+: raw.toList ∧ parseIpAddr (String.ofList piece) = some ip) ∧
    (∀ raw : String, (∀ c ∈ raw.toList, isWhitespace c = true) → parseIpCandidate raw = none) ∧
    (∀ (padding : Padding) (name : String), eqIgnoreAsciiCase name "unknown" = true →
      parseIpCandidate (padding.around name.toList) = none) := by
  refine ⟨?_, piece_of_candidate, ?_, ?_⟩
  · intro ip hdisplay body hlegal padding
    have hclean := legal_clean (display ip) ip body hdisplay hlegal
    have htrim := padding.trimmed_around body
      (clear_of_forall _ _ (fun c hc => (hclean c hc).1))
      (clear_of_forall _ _ (fun c hc => (hclean c hc).2))
    rw [candidate_iff, htrim, String.toList_ofList]
    exact form_of_legal (display ip) ip body hdisplay hlegal
  · intro raw hblank
    have htrim : trim raw = "" := by
      rw [trim, trimMatches, dropWhile_eq_nil_of_all isWhitespace raw.toList hblank]
      rfl
    unfold parseIpCandidate
    rw [htrim]
    rfl
  · intro padding name hname
    have hletters := letters_of_eqIgnoreAsciiCase name "unknown" (by decide) hname
    have htrim := padding.trimmed_around name.toList
      (clear_of_forall _ _ (fun c hc => isWhitespace_of_letter c (hletters c hc)))
      (clear_of_forall _ _ (fun c hc => by
        refine beq_eq_false_iff_ne.mpr ?_
        rintro rfl
        exact absurd (hletters _ hc).1 (by decide)))
    unfold parseIpCandidate
    rw [← stripped, htrim, String.ofList_toList]
    dsimp only
    rw [if_pos (Or.inr hname)]

/-- Two quotes on either side, and blanks outside them. -/
def twoQuotes : Padding := ⟨[' ', '\t'], 2, 2, [' '], List.all_eq_true.mp rfl,
  List.all_eq_true.mp rfl⟩

/-- `""[2001:db8::1]:_gw""`, with blanks around it, is read as its address. -/
theorem renderings_round_trip_obfuscated :
    parseIpCandidate (twoQuotes.around ('[' :: "2001:db8::1".toList ++ "]:_gw".toList)) =
      some (.v6 0x20010DB8000000000000000000000001) := by
  have hport : PortToken "_gw".toList := by
    intro c hc
    have htable : "_gw".toList.all
        (fun c => c ≠ ':' ∧ c ≠ '"' ∧ isWhitespace c = false) = true := by decide
    exact of_decide_eq_true (List.all_eq_true.mp htable c hc)
  exact (renderings_round_trip (fun _ => "2001:db8::1")).1
    (.v6 0x20010DB8000000000000000000000001) (by decide) _
    (.bracketedPort _ "_gw".toList hport) twoQuotes

end RedisBridge.ClientAddress
