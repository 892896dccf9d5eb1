import GuestSeat.Proofs.Document.Events
import GuestSeat.Trace.Step

/-!
Lines of a trace. A step that is written as JSON on a line of its own is read back as that step, with
any blanks around it. The step's kind is the first entry of its record, so what belongs to the step is
put off until the kind is known; the codecs of the parts have to read what they wrote that way too.
-/

namespace GuestSeat

open Text

variable {d : Nat}

theorem queueMaskNames_named : queueMaskNames.IsNamed := ⟨by decide, by decide⟩

namespace TraceStep

/-- The numbers of a step fit the types they have in a document: coordinates are signed 32-bit numbers
and a time span is an unsigned 64-bit number. Every other number has its width in its type. -/
def InRange : TraceStep → Prop
  | .event _ _ _ kind => kind.InRange
  | .window info _ => info.InRange
  | .clipCursor rect => ∀ r ∈ rect, r.InRange
  | .setCursorPos p => p.InRange
  | .driverMessage _ message => message.InRange
  | .advance ms => ms < UInt64.size
  | _ => True

/-- Whether the event of a step, if it has one, holds floating-point numbers. -/
def HoldsFloats : TraceStep → Prop
  | .event _ _ _ kind => kind.HoldsFloats
  | _ => False

/-- Documents carry every step without floating-point numbers. -/
theorem InRange.carried {step : TraceStep} (range : step.InRange) (plain : ¬ step.HoldsFloats) :
    codec.Carries (d + 5) step := by
  cases step with
  | event w serial sent kind =>
      have window := w.carries (d := d + 4)
      have serial : Serial.codec.option.Carries (d + 4) serial :=
        Codec.option_carries (fun s _ => s.carries) (by rintro _ ⟨⟩)
      have sent := Codec.bool_carries (d := d + 4) sent
      have kind := EventKind.InRange.carried (d := d) range plain
      refine Codec.carries_tagged rfl rfl (by simp) ?_ ?_
      · simpa using ⟨window.legible, serial.legible, sent.legible, kind.legible⟩
      · exact finds (Row.read?_written _ (by simp)) <| finds (window.required rfl) <|
          finds (serial.defaulted rfl) <| finds (sent.defaulted rfl) <| finds (kind.required rfl) rfl
  | process mask =>
      have mask : (Codec.option Flags.codec).Carries (d + 4) mask :=
        Codec.option_carries (fun flags _ => Flags.carries queueMaskNames_named flags) (by rintro _ ⟨⟩)
      refine Codec.carries_tagged rfl rfl (by simp) ?_ ?_
      · exact List.forall_mem_singleton.mpr mask.legible
      · exact finds (Row.read?_written _ (by simp)) <| finds (mask.defaulted rfl) rfl
  | window info state =>
      have info := WindowInfo.InRange.carried (d := d + 2) range
      have state : WmState.codec.option.Carries (d + 4) state :=
        Codec.option_carries (fun s _ => s.carries) (by rintro _ ⟨⟩)
      refine Codec.carries_tagged rfl rfl (by simp) ?_ ?_
      · simpa using ⟨info.legible, state.legible⟩
      · exact finds (Row.read?_written _ (by simp)) <| finds (info.required rfl) <|
          finds (state.defaulted rfl) rfl
  | wmState h state =>
      have window := h.carries (d := d + 4)
      have state : WmState.codec.option.Carries (d + 4) state :=
        Codec.option_carries (fun s _ => s.carries) (by rintro _ ⟨⟩)
      refine Codec.carries_tagged rfl rfl (by simp) ?_ ?_
      · simpa using ⟨window.legible, state.legible⟩
      · exact finds (Row.read?_written _ (by simp)) <| finds (window.required rfl) <|
          finds (state.optional rfl) rfl
  | clipCursor rect =>
      have rect : Rect.codec.option.Carries (d + 4) rect :=
        Codec.option_carries (fun r member => (range r member).carried) (by rintro _ ⟨⟩)
      refine Codec.carries_tagged rfl rfl (by simp) ?_ ?_
      · exact List.forall_mem_singleton.mpr rect.legible
      · exact finds (Row.read?_written _ (by simp)) <| finds (rect.optional rfl) rfl
  | setCursorPos p =>
      have position : p.InRange := range
      refine Codec.carries_tagged rfl rfl (by simp [Point.entries]) ?_ ?_
      · simpa [Point.entries] using position.legible
      · exact finds (Row.read?_written _ (by simp [Point.entries])) <| finds (position.found rfl rfl) rfl
  | setCursor cursor =>
      have cursor : CursorId.codec.option.Carries (d + 4) cursor :=
        Codec.option_carries (fun c _ => c.carries) (by rintro _ ⟨⟩)
      refine Codec.carries_tagged rfl rfl (by simp) ?_ ?_
      · exact List.forall_mem_singleton.mpr cursor.legible
      · exact finds (Row.read?_written _ (by simp)) <| finds (cursor.optional rfl) rfl
  | foreground h =>
      have window := h.carries (d := d + 4)
      refine Codec.carries_tagged rfl rfl (by simp) ?_ ?_
      · exact List.forall_mem_singleton.mpr window.legible
      · exact finds (Row.read?_written _ (by simp)) <| finds (window.required rfl) rfl
  | driverMessage h message =>
      have window := h.carries (d := d + 4)
      have message := GuestMessage.InRange.carried (d := d + 2) range
      refine Codec.carries_tagged rfl rfl (by simp) ?_ ?_
      · simpa using ⟨window.legible, message.legible⟩
      · exact finds (Row.read?_written _ (by simp)) <| finds (window.required rfl) <|
          finds (message.required rfl) rfl
  | advance ms =>
      have span : (Codec.natural 64).Carries (d + 4) ms := Codec.natural_carries range (by decide)
      refine Codec.carries_tagged rfl rfl (by simp) ?_ ?_
      · exact List.forall_mem_singleton.mpr span.legible
      · exact finds (Row.read?_written _ (by simp)) <| finds (span.required rfl) rfl

/-- A step is written as a record. -/
theorem exists_entries (step : TraceStep) : ∃ entries, codec.encode step = .record entries := by
  cases step <;> exact ⟨_, rfl⟩

/-- A line that holds a step, with any blanks around it, is read as that step. -/
theorem ofLine_encode {step : TraceStep} (range : step.InRange) (plain : ¬ step.HoldsFloats)
    (spell : Float → List Char) {before after : List Char}
    (blank : ∀ c ∈ before ++ after, isBlank c = true) :
    ofLine (String.ofList (before ++ Json.write spell (codec.encode step) ++ after)) = .step step := by
  have carried : codec.Carries 5 step := range.carried plain
  have read : Json.read? (String.ofList (Json.write spell (codec.encode step))) = some (codec.encode step) :=
    Json.read?_write carried.legible (by decide)
  obtain ⟨entries, encoded⟩ := step.exists_entries
  have braced : Json.write spell (codec.encode step) =
      '\x7b' :: (Json.writeEntries spell entries ++ ['\x7d']) := by
    rw [encoded, Json.write]
  have trimmed : trim (before ++ Json.write spell (codec.encode step) ++ after) =
      Json.write spell (codec.encode step) := by
    apply trim_padded blank
    · rw [braced]
      exact List.cons_ne_nil _ _
    · rw [braced]
      rintro _ ⟨⟩
      decide
    · rw [braced, ← List.cons_append, List.getLast?_concat]
      rintro _ ⟨⟩
      decide
  have decoded : codec.read? (codec.encode step) = some step := carried.reads .inPlace
  rw [ofLine, String.toList_ofList, trimmed]
  split
  · next empty => rw [braced] at empty; cases empty
  · next comment => rw [braced] at comment; cases comment
  · rw [read, Option.bind_some, decoded]

/-- A line that is indented and ends in a carriage return. -/
theorem ofLine_set_cursor_pos :
    ofLine "  \x7b\"op\":\"set_cursor_pos\",\"x\":-5,\"y\":7\x7d\r" = .step (.setCursorPos ⟨-5, 7⟩) := by
  have range : InRange (.setCursorPos ⟨-5, 7⟩) := ⟨⟨by decide, by decide⟩, ⟨by decide, by decide⟩⟩
  have blank : ∀ c ∈ [' ', ' '] ++ ['\r'], isBlank c = true := List.all_eq_true.mp rfl
  have text : String.ofList ([' ', ' '] ++ Json.write (fun _ => []) (codec.encode (.setCursorPos ⟨-5, 7⟩)) ++
      ['\r']) = "  \x7b\"op\":\"set_cursor_pos\",\"x\":-5,\"y\":7\x7d\r" := by
    have left : decimal (-5) = ['-', '5'] := congrArg ('-' :: ·) (digits_of_lt (by decide))
    have top : decimal 7 = ['7'] := digits_of_lt (by decide)
    simp [codec, encode, tagged, Point.entries, Tree.int, Json.write, Json.writeEntries, Json.quote,
      Json.escaped, left, top]
  rw [← text]
  exact ofLine_encode range id _ blank

end TraceStep

end GuestSeat
