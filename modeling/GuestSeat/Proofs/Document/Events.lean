import GuestSeat.Event.Codec
import GuestSeat.Proofs.Document.Records

/-!
Documents carry every host event without floating-point numbers. Each payload is a record of plain
fields; an event of the extension carries one only if it is not one of those that report raw motion or a
changed device, whose numbers are not spelled here.
-/

namespace GuestSeat

open Json (Legible)

variable {d : Nat}

theorem NotifyDetail.carries (detail : NotifyDetail) : NotifyDetail.codec.Carries d detail :=
  Codec.named_carries (by cases detail <;> rfl)

theorem NotifyMode.carries (mode : NotifyMode) : NotifyMode.codec.Carries d mode :=
  Codec.named_carries (by cases mode <;> rfl)

theorem PropertyChange.carries (change : PropertyChange) : PropertyChange.codec.Carries d change :=
  Codec.named_carries (by cases change <;> rfl)

namespace Point.InRange

variable {p : Point} {reading : Reading} {entries : List (String × Tree)}

theorem legible (range : p.InRange) : Legible d (.int p.x) ∧ Legible d (.int p.y) :=
  ⟨range.x.carried.legible, range.y.carried.legible⟩

/-- A position is found among the fields of a larger record. -/
theorem found (range : p.InRange) (x : entries.lookup "x" = some (.int p.x))
    (y : entries.lookup "y" = some (.int p.y)) : ofRow? (Row.written entries reading) = some p := by
  have left := range.x.carried (d := 0)
  have top := range.y.carried (d := 0)
  exact finds (left.required x) <| finds (top.required y) rfl

end Point.InRange

theorem KeyEvent.carries (e : KeyEvent) : KeyEvent.codec.Carries (d + 1) e := by
  have pressed := Codec.bool_carries (d := d) e.pressed
  have keycode := Codec.u8_carries (d := d) e.keycode
  have state := Codec.u16_carries (d := d) e.state
  have time := Codec.u32_carries (d := d) e.time
  refine Codec.carries_record rfl rfl rfl (by decide) ?_ fun reading => ?_
  · simpa [stateEntries] using ⟨pressed.legible, keycode.legible, state.legible, time.legible⟩
  · exact finds (pressed.required rfl) <| finds (keycode.required rfl) <| finds (state.defaulted rfl) <|
      finds (time.defaulted rfl) rfl

theorem ButtonEvent.carries {e : ButtonEvent} (range : e.position.InRange) :
    ButtonEvent.codec.Carries (d + 1) e := by
  have pressed := Codec.bool_carries (d := d) e.pressed
  have button := Codec.u8_carries (d := d) e.button
  have state := Codec.u16_carries (d := d) e.state
  have time := Codec.u32_carries (d := d) e.time
  refine Codec.carries_record rfl rfl rfl (by decide) ?_ fun reading => ?_
  · simpa [Point.entries, stateEntries] using ⟨pressed.legible, button.legible, range.legible.1,
      range.legible.2, state.legible, time.legible⟩
  · exact finds (pressed.required rfl) <| finds (button.required rfl) <| finds (range.found rfl rfl) <|
      finds (state.defaulted rfl) <| finds (time.defaulted rfl) rfl

theorem MotionEvent.carries {e : MotionEvent} (range : e.position.InRange) :
    MotionEvent.codec.Carries (d + 1) e := by
  have state := Codec.u16_carries (d := d) e.state
  have time := Codec.u32_carries (d := d) e.time
  refine Codec.carries_record rfl rfl rfl (by decide) ?_ fun reading => ?_
  · simpa [Point.entries, stateEntries] using ⟨range.legible.1, range.legible.2, state.legible, time.legible⟩
  · exact finds (range.found rfl rfl) <| finds (state.defaulted rfl) <| finds (time.defaulted rfl) rfl

theorem CrossingEvent.carries {e : CrossingEvent} (range : e.position.InRange) :
    CrossingEvent.codec.Carries (d + 1) e := by
  have detail := e.detail.carries (d := d)
  have state := Codec.u16_carries (d := d) e.state
  have time := Codec.u32_carries (d := d) e.time
  refine Codec.carries_record rfl rfl rfl (by decide) ?_ fun reading => ?_
  · simpa [Point.entries, stateEntries] using ⟨range.legible.1, range.legible.2, detail.legible,
      state.legible, time.legible⟩
  · exact finds (range.found rfl rfl) <| finds (detail.required rfl) <| finds (state.defaulted rfl) <|
      finds (time.defaulted rfl) rfl

theorem FocusEvent.carries (e : FocusEvent) : FocusEvent.codec.Carries (d + 1) e := by
  have detail := e.detail.carries (d := d)
  have mode := e.mode.carries (d := d)
  refine Codec.carries_record rfl rfl rfl (by decide) ?_ fun reading => ?_
  · simpa using ⟨detail.legible, mode.legible⟩
  · exact finds (detail.required rfl) <| finds (mode.required rfl) rfl

theorem ExposeEvent.carries {e : ExposeEvent} (range : e.position.InRange) :
    ExposeEvent.codec.Carries (d + 1) e := by
  have width := Codec.u32_carries (d := d) e.width
  have height := Codec.u32_carries (d := d) e.height
  refine Codec.carries_record rfl rfl rfl (by decide) ?_ fun reading => ?_
  · simpa [Point.entries] using ⟨range.legible.1, range.legible.2, width.legible, height.legible⟩
  · exact finds (range.found rfl rfl) <| finds (width.required rfl) <| finds (height.required rfl) rfl

theorem ConfigureEvent.carries {e : ConfigureEvent} (range : e.position.InRange) :
    ConfigureEvent.codec.Carries (d + 1) e := by
  have width := Codec.u32_carries (d := d) e.width
  have height := Codec.u32_carries (d := d) e.height
  refine Codec.carries_record rfl rfl rfl (by decide) ?_ fun reading => ?_
  · simpa [Point.entries] using ⟨range.legible.1, range.legible.2, width.legible, height.legible⟩
  · exact finds (range.found rfl rfl) <| finds (width.required rfl) <| finds (height.required rfl) rfl

theorem ReparentEvent.carries {e : ReparentEvent} (range : e.position.InRange) :
    ReparentEvent.codec.Carries (d + 1) e := by
  have parent := e.parent.carries (d := d)
  refine Codec.carries_record rfl rfl rfl (by decide) ?_ fun reading => ?_
  · simpa [Point.entries] using ⟨parent.legible, range.legible⟩
  · exact finds (parent.required rfl) <| finds (range.found rfl rfl) rfl

theorem GravityEvent.carries {e : GravityEvent} (range : e.position.InRange) :
    GravityEvent.codec.Carries (d + 1) e := by
  refine Codec.carries_record rfl rfl rfl (by decide) ?_ fun reading => ?_
  · simpa [Point.entries] using range.legible
  · exact finds (range.found rfl rfl) rfl

theorem legible_otherEntry (word : UInt32) : Legible (d + 1) (otherEntry word) :=
  .record (List.forall_mem_singleton.mpr (Codec.u32_carries word).legible)

theorem PropertyAtom.carries (atom : PropertyAtom) : PropertyAtom.codec.Carries (d + 1) atom := by
  cases atom with
  | other word =>
      have word := Codec.u32_carries (d := d) word
      exact ⟨legible_otherEntry _, fun reading => finds rfl <| finds rfl <| finds (word.reads reading) rfl⟩
  | _ => exact ⟨.str _, fun _ => rfl⟩

theorem PropertyEvent.carries (e : PropertyEvent) : PropertyEvent.codec.Carries (d + 2) e := by
  have atom := e.atom.carries (d := d)
  have change := e.change.carries (d := d + 1)
  have time := Codec.u32_carries (d := d + 1) e.time
  refine Codec.carries_record rfl rfl rfl (by decide) ?_ fun reading => ?_
  · simpa using ⟨atom.legible, change.legible, time.legible⟩
  · exact finds (atom.required rfl) <| finds (change.required rfl) <| finds (time.defaulted rfl) rfl

theorem WmProtocol.carries (protocol : WmProtocol) : WmProtocol.codec.Carries (d + 1) protocol := by
  cases protocol with
  | other word =>
      have word := Codec.u32_carries (d := d) word
      exact ⟨legible_otherEntry _, fun reading => finds rfl <| finds rfl <| finds (word.reads reading) rfl⟩
  | _ => exact ⟨.str _, fun _ => rfl⟩

theorem EmbedMessage.carries (message : EmbedMessage) : EmbedMessage.codec.Carries (d + 1) message := by
  cases message with
  | other word =>
      have word := Codec.u32_carries (d := d) word
      exact ⟨legible_otherEntry _, fun reading => finds rfl <| finds rfl <| finds (word.reads reading) rfl⟩
  | _ => exact ⟨.str _, fun _ => rfl⟩

theorem ClientMessage.carries (message : ClientMessage) : ClientMessage.codec.Carries (d + 2) message := by
  cases message with
  | wmProtocols protocol time =>
      have protocol := protocol.carries (d := d)
      have time := Codec.u32_carries (d := d + 1) time
      refine Codec.carries_tagged rfl rfl (by simp) ?_ ?_
      · simpa using ⟨protocol.legible, time.legible⟩
      · exact finds (Row.read?_written _ (by simp)) <| finds (protocol.required rfl) <|
          finds (time.required rfl) rfl
  | embed message time =>
      have message := message.carries (d := d)
      have time := Codec.u32_carries (d := d + 1) time
      refine Codec.carries_tagged rfl rfl (by simp) ?_ ?_
      · simpa using ⟨message.legible, time.legible⟩
      · exact finds (Row.read?_written _ (by simp)) <| finds (message.required rfl) <|
          finds (time.required rfl) rfl
  | other messageType =>
      have messageType := Codec.u32_carries (d := d + 1) messageType
      refine Codec.carries_tagged rfl rfl (by simp) ?_ ?_
      · exact List.forall_mem_singleton.mpr messageType.legible
      · exact finds (Row.read?_written _ (by simp)) <| finds (messageType.required rfl) rfl

theorem ClientMessageEvent.carries (e : ClientMessageEvent) : ClientMessageEvent.codec.Carries (d + 3) e := by
  have format := Codec.u8_carries (d := d + 2) e.format
  have message := e.message.carries (d := d)
  have data : DataWords.codec.Carries (d + 2) e.data :=
    Codec.vector_carries fun word _ => Codec.u32_carries word
  refine Codec.carries_record rfl rfl rfl (by decide) ?_ fun reading => ?_
  · simpa using ⟨format.legible, message.legible, data.legible⟩
  · exact finds (format.required rfl) <| finds (message.required rfl) <| finds (data.defaulted rfl) rfl

section Adjacent

variable {α β : Type} {c : Codec α} {inner : Codec β} {a : α} {b : β} {tag content name : String}
  {names : List String} {read : String × Option Part → Option α} {t : Tree}

/-- A name beside its content is taken apart into the two. -/
theorem adjacent?_written (payload : Option Tree) (reading : Reading) :
    Part.adjacent? tag content names ⟨adjacentRecord tag content name payload, reading⟩ =
      some (name, payload.map (⟨·, reading⟩)) := by
  cases payload <;> simp [Part.adjacent?, adjacentRecord, Part.inner, Part.bareName?, Part.variant?]

/-- An alternative without content is carried. -/
theorem Codec.carries_alone (decode : c.decode = fun p => p.adjacent? tag content names >>= read)
    (encode : c.encode a = adjacentRecord tag content name none) (reads : read (name, none) = some a) :
    c.Carries (d + 1) a where
  legible := encode ▸ .record (List.forall_mem_singleton.mpr (.str name))
  reads reading := by
    rw [decode, encode]
    exact finds (adjacent?_written none reading) reads

/-- An alternative is carried beside its content if the content is legible and read. -/
theorem Codec.carries_beside (decode : c.decode = fun p => p.adjacent? tag content names >>= read)
    (encode : c.encode a = adjacentRecord tag content name (some t)) (legible : Legible d t)
    (reads : ∀ reading, read (name, some ⟨t, reading⟩) = some a) : c.Carries (d + 1) a where
  legible := encode ▸ .record (List.forall_mem_cons.mpr ⟨.str name, List.forall_mem_singleton.mpr legible⟩)
  reads reading := by
    rw [decode, encode]
    exact finds (adjacent?_written (some t) reading) (reads reading)

/-- An alternative that wraps a value is carried if the value is. -/
theorem Codec.Carries.beside (h : inner.Carries d b) (wrap : β → α)
    (decode : c.decode = fun p => p.adjacent? tag content names >>= read)
    (encode : c.encode (wrap b) = adjacentRecord tag content name (some (inner.encode b)))
    (wraps : ∀ part, read (name, some part) = inner.decode part >>= fun x => some (wrap x)) :
    c.Carries (d + 1) (wrap b) := by
  refine Codec.carries_beside decode encode h.legible fun reading => ?_
  rw [wraps]
  exact finds (h.reads reading) rfl

end Adjacent

def EventKind.HoldsFloats (kind : EventKind) : Prop := kind.tag = .rawMotion ∨ kind.tag = .deviceChanged

theorem ExtensionEvent.carries {e : ExtensionEvent} (plain : ¬ (EventKind.generic e).HoldsFloats) :
    ExtensionEvent.codec.Carries (d + 2) e := by
  cases e with
  | rawMotion _ => exact absurd (Or.inl rfl) plain
  | deviceChanged _ => exact absurd (Or.inr rfl) plain
  | missing => exact Codec.carries_alone rfl rfl rfl
  | unknown opcode eventType =>
      have opcode := Codec.u8_carries (d := d) opcode
      have eventType := Codec.u16_carries (d := d) eventType
      refine Codec.carries_beside rfl rfl (.record ?_) fun reading => ?_
      · simpa using ⟨opcode.legible, eventType.legible⟩
      · exact finds rfl <| finds (Row.readNamed?_written _ (by simp)) <| finds (opcode.required rfl) <|
          finds (eventType.required rfl) rfl

namespace EventKind

def InRange : EventKind → Prop
  | .button e => e.position.InRange
  | .motion e => e.position.InRange
  | .enter e | .leave e => e.position.InRange
  | .expose e => e.position.InRange
  | .reparent e => e.position.InRange
  | .configure e => e.position.InRange
  | .gravity e => e.position.InRange
  | _ => True

/-- Documents carry every event without floating-point numbers. -/
theorem InRange.carried {kind : EventKind} (range : kind.InRange) (plain : ¬ kind.HoldsFloats) :
    codec.Carries (d + 4) kind := by
  cases kind with
  | key e => exact (KeyEvent.carries e).beside key rfl rfl fun _ => rfl
  | button e => exact (ButtonEvent.carries range).beside button rfl rfl fun _ => rfl
  | motion e => exact (MotionEvent.carries range).beside motion rfl rfl fun _ => rfl
  | enter e => exact (CrossingEvent.carries range).beside enter rfl rfl fun _ => rfl
  | leave e => exact (CrossingEvent.carries range).beside leave rfl rfl fun _ => rfl
  | focusIn e => exact (FocusEvent.carries e).beside focusIn rfl rfl fun _ => rfl
  | focusOut e => exact (FocusEvent.carries e).beside focusOut rfl rfl fun _ => rfl
  | expose e => exact (ExposeEvent.carries range).beside expose rfl rfl fun _ => rfl
  | reparent e => exact (ReparentEvent.carries range).beside reparent rfl rfl fun _ => rfl
  | configure e => exact (ConfigureEvent.carries range).beside configure rfl rfl fun _ => rfl
  | gravity e => exact (GravityEvent.carries range).beside gravity rfl rfl fun _ => rfl
  | property e => exact (PropertyEvent.carries e).beside property rfl rfl fun _ => rfl
  | clientMessage e => exact (ClientMessageEvent.carries e).beside clientMessage rfl rfl fun _ => rfl
  | generic e => exact (ExtensionEvent.carries plain).beside generic rfl rfl fun _ => rfl
  | map | unmap | destroy => exact Codec.carries_alone rfl rfl rfl

end EventKind

end GuestSeat
