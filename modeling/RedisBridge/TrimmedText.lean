import RedisBridge.RustText

/-!
Trimming and cutting of texts. Trimming drops what was padded around a text that
is clear at both ends, and its result is clear. Cutting at a character gives back
the two sides, the first one free of the character.
-/
namespace RedisBridge.TrimmedText

open RustText

variable (p : Char → Bool)

/-- Neither end of the characters matches. -/
structure Clear (cs : List Char) : Prop where
  head : ∀ c, cs.head? = some c → p c = false
  last : ∀ c, cs.getLast? = some c → p c = false

/-- Characters none of which match are clear. -/
theorem clear_of_forall (cs : List Char) (h : ∀ c ∈ cs, p c = false) : Clear p cs :=
  ⟨fun c hc => h c (List.mem_of_head? hc), fun c hc => h c (List.mem_of_getLast? hc)⟩

theorem dropWhile_append_of_all (pad cs : List Char) (hpad : ∀ c ∈ pad, p c = true) :
    (pad ++ cs).dropWhile p = cs.dropWhile p := by
  induction pad with
  | nil => rfl
  | cons c rest ih =>
    obtain ⟨hc, hrest⟩ := List.forall_mem_cons.mp hpad
    rw [List.cons_append, List.dropWhile_cons_of_pos hc]
    exact ih hrest

theorem dropWhile_of_head (cs : List Char) (h : ∀ c, cs.head? = some c → p c = false) :
    cs.dropWhile p = cs := by
  cases cs with
  | nil => rfl
  | cons c rest =>
    rw [List.dropWhile_cons_of_neg]
    simp [h c rfl]

theorem dropWhile_eq_nil_of_all (cs : List Char) (h : ∀ c ∈ cs, p c = true) :
    cs.dropWhile p = [] := by
  have hnil := dropWhile_append_of_all p cs [] h
  rwa [List.append_nil] at hnil

theorem rdropWhile_append_of_all (cs pad : List Char) (hpad : ∀ c ∈ pad, p c = true) :
    (cs ++ pad).rdropWhile p = cs.rdropWhile p := by
  unfold List.rdropWhile
  rw [List.reverse_append,
    dropWhile_append_of_all p _ _ (fun c hc => hpad c (List.mem_reverse.mp hc))]

theorem rdropWhile_of_last (cs : List Char) (h : ∀ c, cs.getLast? = some c → p c = false) :
    cs.rdropWhile p = cs := by
  unfold List.rdropWhile
  rw [dropWhile_of_head p _ (fun c hc => h c (by rwa [List.head?_reverse] at hc)),
    List.reverse_reverse]

/-- Padding around a clear text is dropped. -/
theorem trimMatches_pad (left body right : List Char) (hleft : ∀ c ∈ left, p c = true)
    (hright : ∀ c ∈ right, p c = true) (hbody : Clear p body) :
    trimMatches p (String.ofList (left ++ body ++ right)) = String.ofList body := by
  unfold trimMatches
  rw [String.toList_ofList, List.append_assoc, dropWhile_append_of_all p _ _ hleft]
  congr 1
  cases body with
  | nil =>
    rw [List.nil_append, dropWhile_eq_nil_of_all p right hright]
    rfl
  | cons c rest =>
    rw [dropWhile_of_head p (c :: rest ++ right) (fun d hd => hbody.head d hd),
      rdropWhile_append_of_all p _ _ hright, rdropWhile_of_last p _ hbody.last]

/-- Padding on the left of any text is dropped with what it may end in. -/
theorem trimMatches_pad_append (pad cs : List Char) (hpad : ∀ c ∈ pad, p c = true) :
    trimMatches p (String.ofList (pad ++ cs)) = trimMatches p (String.ofList cs) := by
  unfold trimMatches
  rw [String.toList_ofList, String.toList_ofList, dropWhile_append_of_all p pad cs hpad]

theorem trimMatches_append_pad (cs pad : List Char) (hpad : ∀ c ∈ pad, p c = true) :
    trimMatches p (String.ofList (cs ++ pad)) = trimMatches p (String.ofList cs) := by
  unfold trimMatches
  rw [String.toList_ofList, String.toList_ofList]
  by_cases hall : ∀ c ∈ cs, p c = true
  · rw [dropWhile_append_of_all p cs pad hall, dropWhile_eq_nil_of_all p cs hall,
      dropWhile_eq_nil_of_all p pad hpad]
  · have hne : cs.dropWhile p ≠ [] := fun h => hall (List.dropWhile_eq_nil_iff.mp h)
    rw [List.dropWhile_append, if_neg (by simpa using hne), rdropWhile_append_of_all p _ pad hpad]

/-- A character that does not match keeps what stands before it. -/
theorem rdropWhile_append_stop (left right : List Char) (c : Char) (hc : p c = false) :
    (left ++ c :: right).rdropWhile p = left ++ c :: right.rdropWhile p := by
  have hreverse : (left ++ c :: right).reverse = right.reverse ++ c :: left.reverse := by simp
  unfold List.rdropWhile
  rw [hreverse, List.dropWhile_append]
  split_ifs with hempty
  · rw [List.isEmpty_iff.mp hempty, List.dropWhile_cons_of_neg (by simp [hc])]
    simp
  · simp

theorem trimMatches_of_clear (s : String) (h : Clear p s.toList) : trimMatches p s = s := by
  have hpad := trimMatches_pad p [] s.toList [] (fun _ hc => by cases hc)
    (fun _ hc => by cases hc) h
  rwa [List.nil_append, List.append_nil, String.ofList_toList] at hpad

theorem head_dropWhile (cs : List Char) (c : Char) (h : (cs.dropWhile p).head? = some c) :
    p c = false := by
  have hnot := List.head?_dropWhile_not p cs
  rw [h] at hnot
  simpa using hnot

/-- What trimming leaves is clear. -/
theorem clear_trimMatches (s : String) : Clear p (trimMatches p s).toList := by
  unfold trimMatches
  rw [String.toList_ofList]
  constructor
  · intro c hc
    obtain ⟨tail, htail⟩ := List.rdropWhile_prefix p (s.toList.dropWhile p)
    apply head_dropWhile p s.toList c
    rw [← htail, List.head?_append, hc]
    rfl
  · intro c hc
    apply head_dropWhile p (s.toList.dropWhile p).reverse c
    rwa [List.rdropWhile, List.getLast?_reverse] at hc

/-- Trimming leaves a piece of the text. -/
theorem trimMatches_isInfix (s : String) : (trimMatches p s).toList <:+: s.toList := by
  rw [trimMatches, String.toList_ofList]
  exact (List.rdropWhile_prefix _ _).isInfix.trans (List.dropWhile_suffix _).isInfix

theorem splitOnce_append (left right : List Char) (c : Char) (hleft : ∀ x ∈ left, p x = false)
    (hc : p c = true) : splitOnce p (String.ofList (left ++ c :: right)) =
      some (String.ofList left, String.ofList right) := by
  have hskip : ∀ x ∈ left, (!p x) = true := fun x hx => by simp [hleft x hx]
  unfold splitOnce
  rw [String.toList_ofList, dropWhile_append_of_all (fun x => !p x) left _ hskip,
    List.dropWhile_cons_of_neg (by simp [hc]), List.takeWhile_append_of_pos hskip,
    List.takeWhile_cons_of_neg (by simp [hc]), List.append_nil]

theorem splitOnce_eq_none (s : String) (h : ∀ x ∈ s.toList, p x = false) :
    splitOnce p s = none := by
  unfold splitOnce
  rw [dropWhile_eq_nil_of_all (fun x => !p x) s.toList (fun x hx => by simp [h x hx])]

theorem splitOnce_eq_some (s left right : String) :
    splitOnce p s = some (left, right) ↔ ∃ c, p c = true ∧
      (∀ x ∈ left.toList, p x = false) ∧ s.toList = left.toList ++ c :: right.toList := by
  constructor
  · intro h
    unfold splitOnce at h
    split at h
    · cases h
    · next c rest hdrop =>
      simp only [Option.some.injEq, Prod.mk.injEq] at h
      obtain ⟨rfl, rfl⟩ := h
      have hcut := List.takeWhile_append_dropWhile (p := fun x => !p x) (l := s.toList)
      rw [hdrop] at hcut
      have hc := head_dropWhile (fun x => !p x) s.toList c (by rw [hdrop]; rfl)
      refine ⟨c, by simpa using hc, ?_, ?_⟩
      · intro x hx
        rw [String.toList_ofList] at hx
        simpa using List.mem_takeWhile_imp hx
      · rw [String.toList_ofList, String.toList_ofList, hcut]
  · intro h
    obtain ⟨c, hc, hleft, hs⟩ := h
    have hsplit := splitOnce_append p left.toList right.toList c hleft hc
    rwa [← hs, String.ofList_toList, String.ofList_toList, String.ofList_toList] at hsplit

/-- The last cut leaves what stands before it, if nothing behind it matches. -/
theorem rsplitOnce_append (left right : List Char) (c : Char) (hright : ∀ x ∈ right, p x = false)
    (hc : p c = true) : (rsplitOnce p (String.ofList (left ++ c :: right))).map Prod.fst =
      some (String.ofList left) := by
  have hskip : ∀ x ∈ right.reverse, (!p x) = true := by
    intro x hx
    rw [hright x (List.mem_reverse.mp hx)]
    rfl
  have hreverse : (left ++ c :: right).reverse = right.reverse ++ c :: left.reverse := by simp
  unfold rsplitOnce
  rw [String.toList_ofList, hreverse, dropWhile_append_of_all (fun x => !p x) _ _ hskip,
    List.dropWhile_cons_of_neg (by simp [hc])]
  simp

theorem rsplitOnce_eq_some (s left right : String) (h : rsplitOnce p s = some (left, right)) :
    ∃ c, p c = true ∧ (∀ x ∈ right.toList, p x = false) ∧
      s.toList = left.toList ++ c :: right.toList := by
  unfold rsplitOnce at h
  split at h
  · cases h
  · next c rest hdrop =>
    simp only [Option.some.injEq, Prod.mk.injEq] at h
    obtain ⟨rfl, rfl⟩ := h
    have hc := head_dropWhile (fun x => !p x) s.toList.reverse c (by rw [hdrop]; rfl)
    have hcut := List.takeWhile_append_dropWhile (p := fun x => !p x) (l := s.toList.reverse)
    rw [hdrop] at hcut
    have hs := congrArg List.reverse hcut
    rw [List.reverse_append, List.reverse_cons, List.reverse_reverse, List.append_assoc] at hs
    refine ⟨c, by simpa using hc, ?_, ?_⟩
    · intro x hx
      rw [String.toList_ofList] at hx
      simpa using List.mem_rtakeWhile_imp hx
    · rw [String.toList_ofList, String.toList_ofList]
      exact hs.symm

/-! Letters, told apart by their case only. -/

theorem letter_of_toLower (c : Char) (h : 97 ≤ c.toLower.toNat ∧ c.toLower.toNat ≤ 122) :
    65 ≤ c.toNat ∧ c.toNat ≤ 122 := by
  unfold Char.toLower at h
  split at h
  · next hupper =>
    have hlow : 65 ≤ c.toNat := UInt32.le_iff_toNat_le.mp hupper.1
    have hhigh : c.toNat ≤ 90 := UInt32.le_iff_toNat_le.mp hupper.2
    omega
  · omega

/-- A text that is a word of letters but for case consists of letters. -/
theorem letters_of_eqIgnoreAsciiCase (s word : String)
    (hword : word.toList.all (fun c => 97 ≤ c.toLower.toNat ∧ c.toLower.toNat ≤ 122) = true)
    (h : eqIgnoreAsciiCase s word = true) : ∀ c ∈ s.toList, 65 ≤ c.toNat ∧ c.toNat ≤ 122 := by
  have hlower := congrArg String.toList (beq_iff_eq.mp h)
  rw [toAsciiLowercase, toAsciiLowercase, String.toList_ofList, String.toList_ofList] at hlower
  intro c hc
  apply letter_of_toLower c
  have hmem : c.toLower ∈ word.toList.map Char.toLower := by
    rw [← hlower]
    exact List.mem_map_of_mem hc
  obtain ⟨d, hd, heq⟩ := List.mem_map.mp hmem
  rw [← heq]
  exact of_decide_eq_true (List.all_eq_true.mp hword d hd)

theorem isWhitespace_of_visible (c : Char) (h : 33 ≤ c.toNat ∧ c.toNat ≤ 126) :
    isWhitespace c = false := by
  simp only [isWhitespace, Bool.or_eq_false_iff, Bool.and_eq_false_iff, decide_eq_false_iff_not,
    beq_eq_false_iff_ne]
  omega

theorem isWhitespace_of_letter (c : Char) (h : 65 ≤ c.toNat ∧ c.toNat ≤ 122) :
    isWhitespace c = false := isWhitespace_of_visible c (by omega)

end RedisBridge.TrimmedText
