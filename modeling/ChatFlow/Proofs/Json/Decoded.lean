import ChatFlow.Json.Decode
import ChatFlow.NameMap
import ChatFlow.Proofs.Json.Scanned

/-!
# Types that are read back from their text

A type is written as values and read by a decoder.  If the decoder finds every
item of the type in the reading of its value, the item is read back from the
compact text of the value and from the text laid out, and no other item is
written as either text.  Lists and maps of such a type are read back as well.
-/

namespace ChatFlow.Json

/-- Reading finds in a whole text what the decoder finds in its value. -/
theorem read_spaced {α : Type} (decode : Decoder α) (spacing : Spacing) {value : Value}
    (hfits : value.Fits) :
    read decode (String.ofList (value.spaced spacing 0)) = decode value.reading := by
  simp only [read, String.toList_ofList, scan_spaced spacing value hfits]
  cases decode value.reading <;> rfl

theorem read_render_eq {α : Type} (decode : Decoder α) {value : Value} (hfits : value.Fits) :
    read decode value.render = decode value.reading := by
  rw [← read_spaced decode .compact hfits, spaced_compact, Value.render]

theorem read_pretty_eq {α : Type} (decode : Decoder α) {value : Value} (hfits : value.Fits) :
    read decode value.pretty = decode value.reading := by
  rw [← read_spaced decode .laidOut hfits, spaced_laidOut, Value.pretty]

/-- The decoder finds every item in the value it is written as. -/
structure ReadsBack {α : Type} (encode : α → Value) (decode : Decoder α) : Prop where
  fits : ∀ item, (encode item).Fits
  decode_reading : ∀ item, decode (encode item).reading = .ok item

namespace ReadsBack

variable {α : Type} {encode : α → Value} {decode : Decoder α}

theorem read_render (h : ReadsBack encode decode) (item : α) :
    read decode (encode item).render = .ok item := by
  rw [read_render_eq decode (h.fits item), h.decode_reading]

theorem read_pretty (h : ReadsBack encode decode) (item : α) :
    read decode (encode item).pretty = .ok item := by
  rw [read_pretty_eq decode (h.fits item), h.decode_reading]

theorem render_eq_iff (h : ReadsBack encode decode) {item other : α} :
    (encode item).render = (encode other).render ↔ item = other := by
  refine ⟨fun heq => ?_, fun heq => by rw [heq]⟩
  have hread := h.read_render other
  rw [← heq, h.read_render item] at hread
  exact Except.ok.inj hread

/-! ## Texts, lists and maps -/

protected theorem text : ReadsBack Value.text readText where
  fits _ := trivial
  decode_reading _ := rfl

/-- Numbers of sixty-four bits are read back. -/
protected theorem unsigned : ReadsBack (fun n : UInt64 => .natural n.toNat) readUnsigned where
  fits n := by
    rw [Value.Fits]
    exact n.toNat_lt
  decode_reading n := by
    rw [Value.reading, UInt64.ofNat_toNat]
    rfl

/-- The lack of an item is written as null, so no item itself may be. -/
protected theorem option (h : ReadsBack encode decode)
    (hnull : ∀ item, (encode item).reading ≠ .null) :
    ReadsBack (fun item? : Option α => item?.elim .null encode) (readOption decode) where
  fits item? := by
    cases item? with
    | none => trivial
    | some item => exact h.fits item
  decode_reading item? := by
    cases item? with
    | none => rfl
    | some item =>
        rw [Option.elim, readOption, h.decode_reading item]
        · rfl
        · exact hnull item

theorem itemsFit (h : ReadsBack encode decode) (items : List α) :
    ItemsFit (items.map encode) := by
  induction items with
  | nil => trivial
  | cons item rest ih => exact ⟨h.fits item, ih⟩

theorem readItems_itemReadings (h : ReadsBack encode decode) (items : List α) :
    readItems decode none (itemReadings (items.map encode)) = .ok items := by
  induction items with
  | nil => rfl
  | cons item rest ih =>
      rw [List.map_cons, itemReadings, readItems, h.decode_reading, ih]
      rfl

protected theorem list (h : ReadsBack encode decode) :
    ReadsBack (fun items => .array (items.map encode)) (readList decode) where
  fits items := by
    rw [Value.Fits]
    exact h.itemsFit items
  decode_reading items := by
    rw [Value.reading, readList]
    exact h.readItems_itemReadings items

theorem membersFit (h : ReadsBack encode decode) (entries : List (String × α)) :
    MembersFit (entries.map fun (name, item) => (name, encode item)) := by
  induction entries with
  | nil => trivial
  | cons entry rest ih => exact ⟨h.fits entry.2, ih⟩

theorem readEntries_memberReadings (h : ReadsBack encode decode)
    (entries : List (String × α)) :
    readEntries decode none
        (memberReadings (entries.map fun (name, item) => (name, encode item))) =
      .ok entries := by
  induction entries with
  | nil => rfl
  | cons entry rest ih =>
      rw [List.map_cons, memberReadings, readEntries, h.decode_reading, ih]
      rfl

protected theorem nameMap (h : ReadsBack encode decode) :
    ReadsBack
      (fun m : NameMap α => .object (m.entries.map fun (name, item) => (name, encode item)))
      (fun reading => (readMap decode reading).map NameMap.ofList) where
  fits m := by
    rw [Value.Fits]
    exact h.membersFit m.entries
  decode_reading m := by
    rw [Value.reading, readMap, h.readEntries_memberReadings, Except.map, m.ofList_entries]

end ReadsBack

/-! ## Records -/

section Slots

variable {α σ : Type} {encode : α → Value} {decode : Decoder α} {name : String}
  {get : σ → Option α} {set : σ → α → σ}

theorem ReadsBack.load_slot (h : ReadsBack encode decode) (part : σ) (item : α) :
    (RecordField.slot name get set decode).load part (encode item).reading =
      .ok (set part item) := by
  simp only [RecordField.slot, h.decode_reading, Except.map]

theorem ReadsBack.load_orLack (h : ReadsBack encode decode) (part : σ) (item : α) :
    (RecordField.slot name get set decode).orLack.load part (encode item).reading =
      .ok (set part item) := by
  simp only [RecordField.orLack, RecordField.slot, h.decode_reading, Except.map]

end Slots

/-- The first member is loaded into its field, and then the others. -/
theorem loadMembers_cons {σ : Type} {fields : List (RecordField σ)} {name : String}
    {field : RecordField σ} (hfield : fields.find? (·.name = name) = some field)
    {part next last : σ} (hset : field.isSet part = false) {value : Value}
    (hload : field.load part value.reading = .ok next) {rest : List (String × Value)}
    (hrest : loadMembers fields none next (memberReadings rest) = .ok last) :
    loadMembers fields none part (memberReadings ((name, value) :: rest)) = .ok last := by
  rw [← hrest]
  simp only [memberReadings, loadMembers, Reading.key, bind, Except.bind, hfield, hset, hload]
  rfl

/-- A record is read from the members that fill its fields. -/
theorem readRecord_object {σ α : Type} {fields : List (RecordField σ)} {blank part : σ}
    {finish : σ → Option α} {item : α} (hfinish : finish part = some item)
    {members : List (String × Value)}
    (hload : loadMembers fields none blank (memberReadings members) = .ok part) :
    readRecord fields blank finish (Value.object members).reading = .ok item := by
  rw [Value.reading, readRecord, hload]
  simp only [bind, Except.bind, hfinish, Option.elim]

end ChatFlow.Json
