import GuestSeat.Message.Codec
import GuestSeat.Proofs.Document.FlagText
import GuestSeat.Window
import GuestSeat.WindowManager.State

/-!
Documents carry every identifier, every guest window and every guest message. Identifiers and times are
bare words, so nothing is asked of them; the coordinates of positions and rectangles have to lie in the
signed 32-bit range, which is all that a document can hold of them.
-/

namespace GuestSeat

variable {d : Nat}

theorem Handle.carries (h : Handle) : Handle.codec.Carries d h :=
  (Codec.u64_carries h.id).along rfl

theorem HostWindow.carries (w : HostWindow) : HostWindow.codec.Carries d w :=
  (Codec.u32_carries w.id).along rfl

theorem ThreadId.carries (t : ThreadId) : ThreadId.codec.Carries d t :=
  (Codec.u32_carries t.id).along rfl

theorem CursorId.carries (c : CursorId) : CursorId.codec.Carries d c :=
  (Codec.u64_carries c.id).along rfl

theorem Serial.carries (s : Serial) : Serial.codec.Carries d s :=
  (Codec.u64_carries s.value).along rfl

theorem WmState.carries (s : WmState) : WmState.codec.Carries d s :=
  Codec.named_carries (by cases s <;> rfl)

/-- The coordinates of a position are signed 32-bit numbers. -/
structure Point.InRange (p : Point) : Prop where
  x : Codec.IsCoordinate p.x
  y : Codec.IsCoordinate p.y

/-- The edges of a rectangle are signed 32-bit numbers. -/
structure Rect.InRange (r : Rect) : Prop where
  left : Codec.IsCoordinate r.left
  top : Codec.IsCoordinate r.top
  right : Codec.IsCoordinate r.right
  bottom : Codec.IsCoordinate r.bottom

theorem Rect.InRange.carried {r : Rect} (range : r.InRange) : Rect.codec.Carries (d + 1) r := by
  have left := range.left.carried (d := d)
  have top := range.top.carried (d := d)
  have right := range.right.carried (d := d)
  have bottom := range.bottom.carried (d := d)
  refine Codec.carries_record rfl rfl rfl (by decide) ?_ fun reading => ?_
  · simpa using ⟨left.legible, top.legible, right.legible, bottom.legible⟩
  · exact finds (left.required rfl) <| finds (top.required rfl) <| finds (right.required rfl) <|
      finds (bottom.required rfl) rfl

theorem windowStyleNames_named : windowStyleNames.IsNamed := ⟨by decide, by decide⟩

theorem extendedStyleNames_named : extendedStyleNames.IsNamed := ⟨by decide, by decide⟩

theorem classStyleNames_named : classStyleNames.IsNamed := ⟨by decide, by decide⟩

structure WindowInfo.InRange (w : WindowInfo) : Prop where
  window : w.windowRect.InRange
  client : w.clientRect.InRange

theorem WindowInfo.InRange.carried {w : WindowInfo} (range : w.InRange) :
    WindowInfo.codec.Carries (d + 2) w := by
  have handle (h : Handle) := h.carries (d := d + 1)
  have style := Flags.carries (d := d + 1) windowStyleNames_named w.style
  have extended := Flags.carries (d := d + 1) extendedStyleNames_named w.extendedStyle
  have kind := Flags.carries (d := d + 1) classStyleNames_named w.classStyle
  have window := range.window.carried (d := d)
  have client := range.client.carried (d := d)
  have host : HostWindow.codec.option.Carries (d + 1) w.host :=
    Codec.option_carries (fun h _ => h.carries) (by rintro _ ⟨⟩)
  have flag (b : Bool) := Codec.bool_carries (d := d + 1) b
  have thread := w.thread.carries (d := d + 1)
  refine Codec.carries_record rfl rfl rfl (by decide) ?_ fun reading => ?_
  · simpa using ⟨(handle _).legible, style.legible, extended.legible, kind.legible, window.legible,
      client.legible, host.legible, (flag _).legible, (flag _).legible, (flag _).legible, (flag _).legible,
      (handle _).legible, thread.legible⟩
  · exact finds ((handle _).required rfl) <| finds (style.required rfl) <|
      finds (extended.defaulted rfl) <| finds (kind.defaulted rfl) <| finds (window.required rfl) <|
      finds (client.required rfl) <| finds (host.defaulted rfl) <| finds ((flag _).defaulted rfl) <|
      finds ((flag _).defaulted rfl) <| finds ((flag _).defaulted rfl) <|
      finds ((flag _).defaulted rfl) <| finds ((handle _).defaulted rfl) <|
      finds (thread.defaulted rfl) rfl

theorem SysCommand.carries (command : SysCommand) : SysCommand.codec.Carries d command :=
  Codec.named_carries (by cases command <;> rfl)

theorem HitTest.carries (hit : HitTest) : HitTest.codec.Carries d hit :=
  Codec.named_carries (by cases hit <;> rfl)

namespace GuestMessage

/-- The rectangle of a message, if it has one, can be written. -/
def InRange : GuestMessage → Prop
  | .redraw rect => rect.InRange
  | _ => True

/-- Documents carry every message. -/
theorem InRange.carried {message : GuestMessage} (range : message.InRange) :
    codec.Carries (d + 2) message := by
  cases message with
  | sysCommand command =>
      have command := command.carries (d := d + 1)
      refine Codec.carries_tagged rfl rfl (by simp) ?_ ?_
      · exact List.forall_mem_singleton.mpr command.legible
      · exact finds (Row.read?_written _ (by simp)) <| finds (command.required rfl) rfl
  | mouseActivate top hit =>
      have top := top.carries (d := d + 1)
      have hit := hit.carries (d := d + 1)
      refine Codec.carries_tagged rfl rfl (by simp) ?_ ?_
      · simpa using ⟨top.legible, hit.legible⟩
      · exact finds (Row.read?_written _ (by simp)) <| finds (top.required rfl) <|
          finds (hit.required rfl) rfl
  | clipOwnerChanged source target =>
      have source := source.carries (d := d + 1)
      have target := target.carries (d := d + 1)
      refine Codec.carries_tagged rfl rfl (by simp) ?_ ?_
      · simpa using ⟨source.legible, target.legible⟩
      · exact finds (Row.read?_written _ (by simp)) <| finds (source.required rfl) <|
          finds (target.required rfl) rfl
  | setCursor cursor =>
      have cursor : CursorId.codec.option.Carries (d + 1) cursor :=
        Codec.option_carries (fun c _ => c.carries) (by rintro _ ⟨⟩)
      refine Codec.carries_tagged rfl rfl (by simp) ?_ ?_
      · exact List.forall_mem_singleton.mpr cursor.legible
      · exact finds (Row.read?_written _ (by simp)) <| finds (cursor.optional rfl) rfl
  | enableWindow enable =>
      have enable := Codec.bool_carries (d := d + 1) enable
      refine Codec.carries_tagged rfl rfl (by simp) ?_ ?_
      · exact List.forall_mem_singleton.mpr enable.legible
      · exact finds (Row.read?_written _ (by simp)) <| finds (enable.required rfl) rfl
  | redraw rect =>
      have rect := Rect.InRange.carried (d := d) range
      refine Codec.carries_tagged rfl rfl (by simp) ?_ ?_
      · exact List.forall_mem_singleton.mpr rect.legible
      · exact finds (Row.read?_written _ (by simp)) <| finds (rect.required rfl) rfl
  | close | cancelMode | clipReset | clipRequest | releaseCursor | queryClipOwner =>
      exact Codec.carries_tagged rfl rfl List.not_mem_nil (List.forall_mem_nil _) rfl

end GuestMessage

end GuestSeat
