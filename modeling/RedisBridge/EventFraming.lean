import RedisBridge.RustText

/-!
Messages framed as lines of an event stream. A writer puts one data line for
each line of its text; a reader takes each data line for one message and cuts it
at its first two commas. What is written as one line is read back as one
message, and what a line break cuts is never read back whole.
-/
namespace RedisBridge.EventFraming

open RustText

/-- What ends a line of an event stream. -/
def isBreak (c : Char) : Bool := c == '\n' || c == '\r'

/-- The text is one line. -/
def Unbroken (s : String) : Prop := ∀ c ∈ s.toList, isBreak c = false

instance (s : String) : Decidable (Unbroken s) :=
  List.decidableBAll (fun c => isBreak c = false) s.toList

/-- A writer of one data line for each line of its text. -/
structure WritesLines (write : String → List String) : Prop where
  one : ∀ s, Unbroken s → write s = [s]
  unbroken : ∀ s, ∀ line ∈ write s, Unbroken line

/-- The lines of a text, cut at every line feed and carriage return. -/
def dataLines (s : String) : List String := (s.toList.splitOnP isBreak).map String.ofList

/-- A message: what stands before the first comma, between the two, and behind. -/
structure Frame where
  kind : String
  channel : String
  payload : String
  deriving DecidableEq

def readFrame (line : String) : Option Frame := do
  let (kind, rest) ← splitOnce (· == ',') line
  let (channel, payload) ← splitOnce (· == ',') rest
  pure ⟨kind, channel, payload⟩

/-- The text of a message. -/
def Frame.text (frame : Frame) : String :=
  frame.kind ++ "," ++ (frame.channel ++ "," ++ frame.payload)

/-- The parts before the payload cannot disturb the framing. -/
structure Frame.Sound (frame : Frame) : Prop where
  kind_comma : ',' ∉ frame.kind.toList
  kind_unbroken : Unbroken frame.kind
  channel_comma : ',' ∉ frame.channel.toList
  channel_unbroken : Unbroken frame.channel

/-- What a reader makes of the texts of a stream. -/
def readStream (write : String → List String) (texts : List String) : List Frame :=
  (texts.flatMap write).filterMap readFrame

theorem mem_splitOnP {α : Type*} (p : α → Bool) (xs piece : List α)
    (h : piece ∈ xs.splitOnP p) : ∀ x ∈ piece, p x = false := by
  induction xs generalizing piece with
  | nil =>
    rw [List.splitOnP_nil, List.mem_singleton] at h
    subst h
    intro x hx
    cases hx
  | cons head rest ih =>
    rw [List.splitOnP_cons_eq_if_modifyHead] at h
    by_cases hhead : p head = true
    · rw [if_pos hhead] at h
      rcases List.mem_cons.mp h with rfl | hrest
      · intro x hx
        cases hx
      · exact ih piece hrest
    · rw [if_neg hhead] at h
      obtain ⟨first, more, hsplit⟩ := List.exists_cons_of_ne_nil (List.splitOnP_ne_nil p rest)
      rw [hsplit, List.modifyHead_cons] at h
      rcases List.mem_cons.mp h with rfl | hmore
      · intro x hx
        rcases List.mem_cons.mp hx with rfl | hfirst
        · exact Bool.eq_false_iff.mpr hhead
        · exact ih first (by rw [hsplit]; exact List.mem_cons_self) x hfirst
      · exact ih piece (by rw [hsplit]; exact List.mem_cons_of_mem _ hmore)

theorem dataLines_writesLines : WritesLines dataLines := by
  constructor
  · intro s hs
    unfold dataLines
    rw [List.splitOnP_eq_singleton hs, List.map_singleton, String.ofList_toList]
  · intro s line hline c hc
    obtain ⟨piece, hpiece, rfl⟩ := List.mem_map.mp hline
    rw [String.toList_ofList] at hc
    exact mem_splitOnP isBreak s.toList piece hpiece c hc

/-- A text is cut at its first comma. -/
theorem splitOnce_comma (head tail : String) (h : ',' ∉ head.toList) :
    splitOnce (· == ',') (head ++ "," ++ tail) = some (head, tail) := by
  have hhead : ∀ c ∈ head.toList, (!(c == ',')) = true := by
    intro c hc
    have hne : c ≠ ',' := fun heq => h (heq ▸ hc)
    simp [hne]
  have hlist : (head ++ "," ++ tail).toList = head.toList ++ ',' :: tail.toList := by
    simp
  unfold splitOnce
  rw [hlist, List.dropWhile_append_of_pos hhead, List.takeWhile_append_of_pos hhead]
  simp

/-- A message without a comma in its first two parts is read back. -/
theorem readFrame_text (frame : Frame) (h : frame.Sound) :
    readFrame frame.text = some frame := by
  unfold readFrame Frame.text
  rw [splitOnce_comma frame.kind _ h.kind_comma, Option.bind_eq_bind, Option.bind_some]
  dsimp only
  rw [splitOnce_comma frame.channel frame.payload h.channel_comma]
  rfl

theorem text_unbroken (frame : Frame) (h : frame.Sound) (hpayload : Unbroken frame.payload) :
    Unbroken frame.text := by
  intro c hc
  simp only [Frame.text, String.toList_append, List.mem_append] at hc
  rcases hc with (hkind | hcomma) | (hchannel | hcomma) | htail
  · exact h.kind_unbroken c hkind
  · rw [List.mem_singleton.mp hcomma]
    rfl
  · exact h.channel_unbroken c hchannel
  · rw [List.mem_singleton.mp hcomma]
    rfl
  · exact hpayload c htail

theorem splitOnce_unbroken (p : Char → Bool) (s head tail : String)
    (h : splitOnce p s = some (head, tail)) (hs : Unbroken s) : Unbroken tail := by
  unfold splitOnce at h
  split at h
  · cases h
  · rename_i c rest hdrop
    simp only [Option.some.injEq, Prod.mk.injEq] at h
    obtain ⟨_, rfl⟩ := h
    intro c' hc'
    rw [String.toList_ofList] at hc'
    apply hs c'
    apply List.dropWhile_subset (fun c => !p c)
    rw [hdrop]
    exact List.mem_cons_of_mem _ hc'

/-- The payload that is read from one line is one line. -/
theorem readFrame_unbroken (line : String) (frame : Frame) (h : readFrame line = some frame)
    (hline : Unbroken line) : Unbroken frame.payload := by
  unfold readFrame at h
  simp only [Option.bind_eq_bind, Option.bind_eq_some_iff] at h
  obtain ⟨⟨kind, rest⟩, hfirst, ⟨channel, payload⟩, hsecond, h⟩ := h
  cases h
  exact splitOnce_unbroken _ rest channel payload hsecond
    (splitOnce_unbroken _ line kind rest hfirst hline)

/-- Nothing with a line break in its payload is ever read. -/
theorem readStream_unbroken (write : String → List String) (hwrite : WritesLines write)
    (texts : List String) (frame : Frame) (h : frame ∈ readStream write texts) :
    Unbroken frame.payload := by
  obtain ⟨line, hline, hread⟩ := List.mem_filterMap.mp h
  obtain ⟨text, _, hwritten⟩ := List.mem_flatMap.mp hline
  exact readFrame_unbroken line frame hread (hwrite.unbroken text line hwritten)

/-- Messages without a line break are read back, each as one message. -/
theorem readStream_text (write : String → List String) (hwrite : WritesLines write)
    (frames : List Frame) (h : ∀ frame ∈ frames, frame.Sound ∧ Unbroken frame.payload) :
    readStream write (frames.map Frame.text) = frames := by
  induction frames with
  | nil => rfl
  | cons frame rest ih =>
    obtain ⟨⟨hsound, hpayload⟩, hrest⟩ := List.forall_mem_cons.mp h
    have htail := ih hrest
    have hread := readFrame_text frame hsound
    unfold readStream at htail ⊢
    rw [List.map_cons, List.flatMap_cons, hwrite.one _ (text_unbroken frame hsound hpayload),
      List.filterMap_append, htail]
    simp [hread]

end RedisBridge.EventFraming
