import RedisBridge.AddressRenderings
import RedisBridge.ForwardedGrammar
import RedisBridge.SeparatedText

/-!
How a `Forwarded` field is scanned. A header with bytes outside ASCII is not read at
all. The text is cut at every comma and semicolon, also inside quotes, and a piece
gives an address when what stands before its first equals sign names `for`. So the
pairs of a field are read one after the other: the first piece of a pair has its
name, the other pieces come from inside its quotes.
-/
namespace RedisBridge.Forwarded

open ClientAddress HeaderText IpAddress RustText SeparatedText TrimmedText Utf8Text

/-- What one piece of the text gives. -/
def part (cs : List Char) : Option IpAddr := forwardedPartIp (String.ofList cs)

/-! The text of a field, as the header gives it. -/

theorem obsText_not_header (c : Char) (h : isObsText c = true) : isHeaderChar c = false := by
  simp only [isObsText, Bool.and_eq_true, decide_eq_true_eq] at h
  simp only [isHeaderChar, Bool.or_eq_false_iff, Bool.and_eq_false_iff, decide_eq_false_iff_not,
    beq_eq_false_iff_ne]
  omega

theorem inField_small (c : Char) (h : InField c) : c.toNat < 256 := by
  rcases h with h | h
  · simp only [isHeaderChar, Bool.or_eq_true, Bool.and_eq_true, decide_eq_true_eq, beq_iff_eq] at h
    omega
  · simp only [isObsText, Bool.and_eq_true, decide_eq_true_eq] at h
    omega

theorem toStr_chars (cs : List Char) (h : ∀ c ∈ cs, InField c) :
    toStr (cs.map (fun c => UInt8.ofNat c.toNat)) =
      if cs.any isObsText = true then none else some (String.ofList cs) := by
  have hstr : toStr (cs.map (fun c => UInt8.ofNat c.toNat)) =
      if (cs.map (fun c => UInt8.ofNat c.toNat)).all isHeaderByte = true then
        some (String.ofList ((cs.map (fun c => UInt8.ofNat c.toNat)).map
          (fun b => Char.ofNat b.toNat))) else none := rfl
  have hbyte (c : Char) (hc : c ∈ cs) :
      isHeaderByte (UInt8.ofNat c.toNat) = isHeaderChar c :=
    isHeaderByte_ofNat c.toNat (inField_small c (h c hc))
  rw [hstr]
  by_cases hobs : cs.any isObsText = true
  · rw [if_pos hobs, if_neg]
    obtain ⟨c, hc, hcobs⟩ := List.any_eq_true.mp hobs
    intro hall
    have hheader := List.all_eq_true.mp hall _ (List.mem_map_of_mem hc)
    rw [hbyte c hc, obsText_not_header c hcobs] at hheader
    cases hheader
  · have hheader (c : Char) (hc : c ∈ cs) : isHeaderChar c = true :=
      (h c hc).resolve_right (fun hc' => hobs (List.any_eq_true.mpr ⟨c, hc, hc'⟩))
    rw [if_neg hobs, if_pos]
    · have hsame : cs.map (fun c => Char.ofNat (UInt8.ofNat c.toNat).toNat) = cs.map id := by
        apply List.map_congr_left
        intro c hc
        rw [toNat_ofNat_byte _ (inField_small c (h c hc)), Char.ofNat_toNat]
        rfl
      rw [List.map_map]
      exact congrArg (fun chars => some (String.ofList chars)) (hsame.trans (List.map_id cs))
    · rw [List.all_eq_true]
      intro b hb
      obtain ⟨c, hc, rfl⟩ := List.mem_map.mp hb
      rw [hbyte c hc]
      exact hheader c hc

/-- The two splits of the source are one scan. -/
theorem findSome?_split (cs : List Char) :
    (split ',' (String.ofList cs)).findSome? (fun entry =>
      (split ';' entry).findSome? forwardedPartIp) = scan isSeparator part cs := by
  have hsplit : cs.splitOnP isSeparator = (cs.splitOn ',').flatMap (List.splitOn ';') :=
    (flatMap_splitOnP (· == ',') (· == ';') cs).symm
  unfold scan split
  rw [hsplit, String.toList_ofList, List.findSome?_map, findSome?_flatMap]
  congr 1
  funext entry
  simp only [Function.comp_def, String.toList_ofList, List.findSome?_map]
  rfl

theorem slot_inField (slot : Option Pair) : ∀ c ∈ slotText slot, InField c := by
  cases slot with
  | none => exact fun _ h => absurd h List.not_mem_nil
  | some pair => exact pair_inField pair

theorem rest_inField (rest : List (Separator × Option Pair)) :
    ∀ c ∈ restText rest, InField c := by
  induction rest with
  | nil => exact fun _ h => absurd h List.not_mem_nil
  | cons item more ih =>
    obtain ⟨separator, slot⟩ := item
    intro c hc
    simp only [restText, List.mem_append] at hc
    rcases hc with (hseparator | hslot) | hmore
    · exact Or.inl (separator_header separator c hseparator)
    · exact slot_inField slot c hslot
    · exact ih c hmore

namespace Field

variable (field : Field)

def Opaque : Prop := field.text.any isObsText = true

theorem inField : ∀ c ∈ field.text, InField c := by
  intro c hc
  exact (List.mem_append.mp hc).elim (slot_inField field.first c) (rest_inField field.rest c)

/-- The field is scanned as it stands, unless the header cannot be read at all. -/
theorem forwardedHeaderIp_headers : forwardedHeaderIp field.headers =
    if field.text.any isObsText = true then none else scan isSeparator part field.text := by
  have hheader : field.headers "forwarded" =
      some (field.text.map (fun c => UInt8.ofNat c.toNat)) := if_pos rfl
  unfold forwardedHeaderIp
  rw [hheader, Option.bind_some, toStr_chars field.text field.inField]
  split_ifs
  · rfl
  · rw [Option.bind_some]
    exact findSome?_split field.text

end Field

/-! The pairs of a field, one after the other. -/

/-- What the pieces of a pair give. -/
def Pair.reading (pair : Pair) : Option IpAddr := scan isSeparator part pair.text

theorem part_ows_append (front cs : List Char) (h : ∀ c ∈ front, isOws c = true) :
    part (front ++ cs) = part cs := by
  unfold part forwardedPartIp trim
  rw [trimMatches_pad_append isWhitespace front cs (fun c hc => (ows_inField c (h c hc)).2.1)]

theorem part_append_ows (cs back : List Char) (h : ∀ c ∈ back, isOws c = true) :
    part (cs ++ back) = part cs := by
  unfold part forwardedPartIp trim
  rw [trimMatches_append_pad isWhitespace cs back (fun c hc => (ows_inField c (h c hc)).2.1)]

theorem scan_restText (slot : Option Pair) (rest : List (Separator × Option Pair)) :
    scan isSeparator part (slotText slot ++ restText rest) =
      ((slot :: rest.map Prod.snd).filterMap id).findSome? Pair.reading := by
  have hslot (slot : Option Pair) : scan isSeparator part (slotText slot) =
      slot.bind Pair.reading := by
    cases slot with
    | none => rfl
    | some pair => rfl
  have hcons (slot : Option Pair) (slots : List (Option Pair)) :
      ((slot :: slots).filterMap id).findSome? Pair.reading =
        (slot.bind Pair.reading).or ((slots.filterMap id).findSome? Pair.reading) := by
    cases slot with
    | none => rfl
    | some pair => exact findSome?_cons_or pair (slots.filterMap id) Pair.reading
  induction rest generalizing slot with
  | nil =>
    rw [restText, List.append_nil, hslot, hcons]
    exact (Option.or_none).symm
  | cons item more ih =>
    obtain ⟨separator, next⟩ := item
    rw [hcons, List.map_cons, ← ih next, ← hslot]
    cases separator with
    | semicolon =>
      have htext : slotText slot ++ restText ((.semicolon, next) :: more) =
          slotText slot ++ ';' :: (slotText next ++ restText more) := rfl
      rw [htext, scan_append_cons _ _ _ _ _ rfl]
    | comma before after hbefore hafter =>
      have htext : slotText slot ++ restText ((.comma before after hbefore hafter, next) :: more) =
          (slotText slot ++ before) ++ ',' :: (after ++ (slotText next ++ restText more)) := by
        simp [restText, Separator.text]
      rw [htext, scan_append_cons _ _ _ _ _ rfl,
        scan_append_free _ _ _ _ (fun c hc => (ows_inField c (hbefore c hc)).2.2)
          (fun piece => part_append_ows piece before hbefore),
        scan_free_append _ _ _ _ (fun c hc => (ows_inField c (hafter c hc)).2.2)
          (fun piece => part_ows_append after piece hafter)]

/-- A field is read pair by pair. -/
theorem Field.scan_text (field : Field) :
    scan isSeparator part field.text = field.pairs.findSome? Pair.reading :=
  scan_restText field.first field.rest

/-! One piece, and one pair. -/

theorem parseIpCandidate_rdropWhile (cs : List Char) :
    parseIpCandidate (String.ofList (cs.rdropWhile isWhitespace)) =
      parseIpCandidate (String.ofList cs) := by
  have hpad : ∀ c ∈ cs.rtakeWhile isWhitespace, isWhitespace c = true := fun c hc =>
    List.mem_rtakeWhile_imp hc
  have htrim := trimMatches_append_pad isWhitespace (cs.rdropWhile isWhitespace) _ hpad
  rw [List.rdropWhile_append_rtakeWhile] at htrim
  unfold parseIpCandidate trim
  rw [htrim]

/-- What stands before the first equals sign is the name of the piece. -/
theorem part_equals (key value : List Char) (hkey : '=' ∉ key) : part (key ++ '=' :: value) =
    if eqIgnoreAsciiCase (trim (String.ofList key)) "for" = true then
      parseIpCandidate (String.ofList value) else none := by
  have hdrop : (key ++ '=' :: value).dropWhile isWhitespace =
      key.dropWhile isWhitespace ++ '=' :: value := by
    rw [List.dropWhile_append]
    split_ifs with hblank
    · rw [List.isEmpty_iff.mp hblank, List.dropWhile_cons_of_neg (by decide), List.nil_append]
    · rfl
  have htrim : trim (String.ofList (key ++ '=' :: value)) =
      String.ofList (key.dropWhile isWhitespace ++ '=' :: value.rdropWhile isWhitespace) := by
    unfold trim trimMatches
    rw [String.toList_ofList, hdrop, rdropWhile_append_stop isWhitespace _ _ '=' (by decide)]
  have hname : trim (String.ofList (key.dropWhile isWhitespace)) = trim (String.ofList key) := by
    have hpad := trimMatches_pad_append isWhitespace (key.takeWhile isWhitespace)
      (key.dropWhile isWhitespace) (fun c hc => List.mem_takeWhile_imp hc)
    rw [List.takeWhile_append_dropWhile] at hpad
    exact hpad.symm
  have hequals : ∀ c ∈ key.dropWhile isWhitespace, (c == '=') = false := by
    intro c hc
    exact beq_eq_false_iff_ne.mpr (ne_of_mem_of_not_mem
      ((List.dropWhile_suffix isWhitespace).subset hc) hkey)
  unfold part forwardedPartIp
  rw [htrim, splitOnce_append (· == '=') _ _ '=' hequals rfl, Option.bind_some]
  dsimp only
  rw [hname, parseIpCandidate_rdropWhile]

theorem part_no_equals (piece : List Char) (h : '=' ∉ piece) : part piece = none := by
  unfold part forwardedPartIp
  rw [splitOnce_eq_none, Option.bind_none]
  intro c hc
  have hmem := (trimMatches_isInfix isWhitespace (String.ofList piece)).subset hc
  rw [String.toList_ofList] at hmem
  exact beq_eq_false_iff_ne.mpr (ne_of_mem_of_not_mem hmem h)

/-- The piece with the name of the pair in it. -/
theorem part_pair (pair : Pair) (cs : List Char) : part (pair.name.chars ++ '=' :: cs) =
    if pair.IsFor then parseIpCandidate (String.ofList cs) else none := by
  have hkey : trim (String.ofList pair.name.chars) = String.ofList pair.name.chars := by
    apply trimMatches_of_clear
    rw [String.toList_ofList]
    exact clear_of_forall _ _ (fun c hc => (tchar_plain c (pair.name.tchars c hc)).2.1)
  rw [part_equals _ _ (pair.name.not_mem '=' rfl), hkey]
  rfl

/-- The text of the value, cut at its commas and semicolons. -/
def PairValue.pieces (value : PairValue) : List (List Char) := value.text.splitOnP isSeparator

theorem Pair.reading_eq (pair : Pair) : pair.reading =
    (if pair.IsFor then parseIpCandidate (String.ofList (pair.value.pieces.headD [])) else none).or
      (pair.value.pieces.tail.findSome? part) := by
  have hfree : ∀ c ∈ pair.name.chars ++ ['='], isSeparator c = false := by
    intro c hc
    rcases List.mem_append.mp hc with hmem | hmem
    · exact (tchar_plain c (pair.name.tchars c hmem)).2.2
    · obtain rfl := List.mem_singleton.mp hmem
      decide
  have htext : pair.text = (pair.name.chars ++ ['=']) ++ pair.value.text := by
    simp [Pair.text]
  obtain ⟨piece, more, hsplit⟩ :=
    List.exists_cons_of_ne_nil (List.splitOnP_ne_nil isSeparator pair.value.text)
  have hfirst : part (pair.name.chars ++ ['='] ++ piece) =
      if pair.IsFor then parseIpCandidate (String.ofList piece) else none := by
    rw [List.append_assoc]
    exact part_pair pair piece
  unfold Pair.reading scan PairValue.pieces
  rw [htext, splitOnP_free_append isSeparator _ _ hfree, hsplit, List.modifyHead_cons,
    findSome?_cons_or, hfirst]
  rfl

end RedisBridge.Forwarded
