import Deliberation.Wire
import Deliberation.Proofs.Wire.Instants
import Deliberation.Proofs.Wire.Texts

/-!
# Messages over the wire

A message whose parameters ascend and whose time is supported is `WellFormed`; all messages are that
the constructors build or `Message.decode` reads. Such a message is spelled by `Message.toJson` as
its `Message.tree`, and `Message.decode` reads that tree as the message with the time that was
written (`Message.settled`). So the JSON codec carries exactly those well-formed messages unchanged
whose time is settled (`Codec.carry_json_iff`).
-/

namespace Deliberation

/-! ## Parameters -/

namespace Parameters

/-- Keys ascend, so there is one value per key. -/
def Ascending (parameters : Parameters) : Prop := parameters.Pairwise (·.1 < ·.1)

instance (parameters : Parameters) : Decidable parameters.Ascending :=
  inferInstanceAs (Decidable (List.Pairwise _ _))

variable {parameters : Parameters} {key value : String}

/-- A key behind all others is appended. -/
theorem insert_behind (behind : ∀ entry ∈ parameters, entry.1 < key) :
    parameters.insert key value = parameters ++ [(key, value)] := by
  induction parameters with
  | nil => rfl
  | cons entry rest ih =>
    have before := behind entry List.mem_cons_self
    have different : key ≠ entry.1 := fun same => String.lt_irrefl key (same ▸ before)
    have later := ih fun entry member => behind entry (List.mem_cons_of_mem _ member)
    simp only [insert, String.lt_asymm before, different, if_false, later, List.cons_append]

/-- Entries in ascending order are set one behind the other. -/
theorem foldl_insert {held entries : Parameters} (ascending : (held ++ entries).Ascending) :
    entries.foldl (fun parameters entry => parameters.insert entry.1 entry.2) held =
      held ++ entries := by
  induction entries generalizing held with
  | nil => simp
  | cons entry rest ih =>
    have behind : ∀ other ∈ held, other.1 < entry.1 := fun other member =>
      (List.pairwise_append.mp ascending).2.2 other member entry List.mem_cons_self
    rw [List.append_cons] at ascending ⊢
    simp only [List.foldl_cons, insert_behind behind, ih ascending]

/-- What is in a map after an insertion was inserted or was there before. -/
theorem mem_insert {entry : String × String} (member : entry ∈ parameters.insert key value) :
    entry = (key, value) ∨ entry ∈ parameters := by
  induction parameters with
  | nil => exact .inl (List.mem_singleton.mp member)
  | cons first rest ih =>
    rw [insert] at member
    split at member
    · exact List.mem_cons.mp member
    · split at member
      · exact (List.mem_cons.mp member).imp_right (List.mem_cons_of_mem _)
      · rcases List.mem_cons.mp member with same | later
        · exact .inr (same ▸ List.mem_cons_self)
        · exact (ih later).imp_right (List.mem_cons_of_mem _)

/-- Setting a parameter keeps the order of the keys. -/
theorem Ascending.insert (ascending : parameters.Ascending) :
    (parameters.insert key value).Ascending := by
  induction parameters with
  | nil => exact List.pairwise_singleton _ _
  | cons first rest ih =>
    obtain ⟨before, later⟩ := List.pairwise_cons.mp ascending
    rw [Parameters.insert]
    split
    · rename_i smaller
      refine List.pairwise_cons.mpr ⟨fun entry member => ?_, ascending⟩
      rcases List.mem_cons.mp member with rfl | member
      · exact smaller
      · exact String.lt_trans smaller (before entry member)
    · rename_i notSmaller
      split
      · rename_i same
        exact List.pairwise_cons.mpr ⟨fun entry member => same ▸ before entry member, later⟩
      · rename_i different
        refine List.pairwise_cons.mpr ⟨fun entry member => ?_, ih later⟩
        rcases mem_insert member with rfl | member
        · exact Std.lt_of_le_of_ne (String.not_lt.mp notSmaller) (Ne.symm different)
        · exact before entry member

/-- Insertions keep the keys of a map in order. -/
theorem foldl_ascending {entries : List (String × String)} (ascending : parameters.Ascending) :
    (entries.foldl (fun parameters entry => parameters.insert entry.1 entry.2)
      parameters).Ascending := by
  induction entries generalizing parameters with
  | nil => exact ascending
  | cons entry rest ih => exact ih ascending.insert

end Parameters

namespace Message

/-- What holds of every message that is built or read: there is one value per key, in the order of
the keys, and the time is a supported one. -/
structure WellFormed (message : Message) : Prop where
  parameters : message.parameters.Ascending
  sentAt : message.sentAt.IsValid

/-- The message with the time that is written. -/
def settled (message : Message) : Message := { message with sentAt := message.sentAt.settled }

/-- A message whose time needs no settling is settled as it is. -/
theorem settled_of_isSettled {message : Message} (settled : message.sentAt.IsSettled) :
    message.settled = message := by
  rw [Message.settled, Instant.settled_of_isSettled settled]

/-- A broadcast is well-formed. -/
theorem WellFormed.broadcast (sender : AgentId) (content : String) :
    (broadcast sender content).WellFormed where
  parameters := List.Pairwise.nil
  sentAt := show Instant.epoch.IsValid by decide

variable {message : Message}

/-- A well-formed message stays so with another receiver. -/
theorem WellFormed.addressedTo (wellFormed : message.WellFormed) (receiver : AgentId) :
    (message.addressedTo receiver).WellFormed where
  parameters := wellFormed.parameters
  sentAt := wellFormed.sentAt

/-- A well-formed message stays so with another parameter. -/
theorem WellFormed.withParameter (wellFormed : message.WellFormed) (key value : String) :
    (message.withParameter key value).WellFormed where
  parameters := wellFormed.parameters.insert
  sentAt := wellFormed.sentAt

end Message

/-! ## Reading trees -/

namespace Json

/-- What follows a value goes on with it. -/
@[simp] theorem ok_bind {α β ε : Type} (value : α) (next : α → Except ε β) :
    (.ok value >>= next) = next value := rfl

/-- The string node of a text reads as this text. -/
@[simp] theorem StringNode.of_text (text : String) : (of text).text = .ok text := rfl

/-- Values that are read one by one are read together. -/
theorem mapM_map {α β ε : Type} {read : β → Except ε α} {write : α → β}
    (reads : ∀ value, read (write value) = .ok value) (values : List α) :
    (values.map write).mapM read = .ok values := by
  induction values with
  | nil => rfl
  | cons value rest ih =>
    simp only [List.map_cons, List.mapM_cons, reads, ih, ok_bind]
    rfl

variable {α : Type} {decode : Decoder α} {tree : α → Tree}

/-- A text that can be read is read from its string node. -/
theorem textAs_of {read : String → Option α} {text : String} {value : α}
    (reads : read text = some value) : textAs read (.string (.of text)) = .ok value := by
  unfold textAs
  simp only [Json.text, StringNode.of, ok_bind, reads]

/-- A field that was not there yet is read. -/
theorem once_none {tree : Tree} {value : α} (reads : decode tree = .ok value) :
    once none decode tree = .ok (some value) := by
  simp [once, reads, Except.map]

/-- A list is read when each of its elements is. -/
theorem list_map (reads : ∀ value, decode (tree value) = .ok value) (values : List α) :
    list decode (.array (values.map tree) none) = .ok values := by
  simp only [list, mapM_map reads, noFault, ok_bind]

/-- A map of texts is read when each of its values is. -/
theorem entries_map (reads : ∀ value, decode (tree value) = .ok value)
    (values : List (String × α)) :
    entries decode (.object (values.map fun entry => (.of entry.1, tree entry.2)) none) =
      .ok values := by
  simp only [entries]
  rw [mapM_map]
  · simp only [noFault, ok_bind]
  · intro entry
    simp only [StringNode.of_text, reads, ok_bind]

end Json

namespace Message

/-- The tree of a quoted text. -/
abbrev leaf (text : String) : Json.Tree := .string (.of text)

/-- The fields of a message with their texts and trees. -/
def members (message : Message) : List Json.Member :=
  [("sender", Json.quote message.sender.toText, leaf message.sender.toText),
   ("receivers", Json.array (message.receivers.map fun receiver => Json.quote receiver.toText),
     .array (message.receivers.map fun receiver => leaf receiver.toText) none),
   ("content", Json.quote message.content, leaf message.content),
   ("parameters",
     Json.object (message.parameters.map fun entry => (entry.1, Json.quote entry.2)),
     .object (message.parameters.map fun entry => (.of entry.1, leaf entry.2)) none),
   ("sent_at", Json.quote message.sentAt.toText, leaf message.sentAt.toText)]

/-- The tree of a message. -/
def tree (message : Message) : Json.Tree :=
  .object (message.members.map fun member => (.of member.1, member.2.2)) none

variable (message : Message)

/-- The receivers are written as an array of their texts. -/
theorem receivers_spell :
    Json.Spells (Json.array (message.receivers.map fun receiver => Json.quote receiver.toText))
      (.array (message.receivers.map fun receiver => leaf receiver.toText) none) := by
  have spelled : ∀ item ∈ message.receivers.map fun receiver =>
      (Json.quote receiver.toText, leaf receiver.toText), Json.Spells item.1 item.2 := by
    intro item member
    obtain ⟨receiver, -, rfl⟩ := List.mem_map.mp member
    exact Json.Spells.quote _
  have array := Json.Spells.array spelled
  rw [List.map_map, List.map_map] at array
  exact array

/-- The parameters are written as an object of strings. -/
theorem parameters_spell :
    Json.Spells
      (Json.object (message.parameters.map fun entry => (entry.1, Json.quote entry.2)))
      (.object (message.parameters.map fun entry => (.of entry.1, leaf entry.2)) none) := by
  have spelled : ∀ member ∈ message.parameters.map fun entry =>
      (entry.1, Json.quote entry.2, leaf entry.2), Json.Spells member.2.1 member.2.2 := by
    intro member isMember
    obtain ⟨entry, -, rfl⟩ := List.mem_map.mp isMember
    exact Json.Spells.quote _
  have object := Json.Spells.object spelled
  rw [List.map_map, List.map_map] at object
  exact object

/-- A message is written as an object of its members. -/
theorem toJson_eq_object :
    message.toJson = Json.object (message.members.map fun member => (member.1, member.2.1)) := rfl

/-- A message is spelled as its tree. -/
theorem toJson_spells : Json.Spells message.toJson message.tree := by
  rw [toJson_eq_object]
  refine Json.Spells.object fun member isMember => ?_
  simp only [members, List.mem_cons, List.not_mem_nil, or_false] at isMember
  rcases isMember with rfl | rfl | rfl | rfl | rfl
  · exact .quote _
  · exact message.receivers_spell
  · exact .quote _
  · exact message.parameters_spell
  · exact .quote _

/-- The tree of a message is read as the message, but for its time, which is read as written. -/
theorem decode_tree {message : Message} (wellFormed : message.WellFormed) :
    decode message.tree = .ok message.settled := by
  have agent : ∀ id : AgentId, AgentId.decode (leaf id.toText) = .ok id := fun id =>
    Json.textAs_of (by rw [AgentId.toText, Identifier.ofText?_toText]; rfl)
  have text : ∀ text : String, Json.text (leaf text) = .ok text := fun _ => rfl
  have sender := Json.once_none (agent message.sender)
  have receivers := Json.once_none (Json.list_map agent message.receivers)
  have content := Json.once_none (text message.content)
  have parameters := Json.once_none (Json.entries_map text message.parameters)
  have sentAt := Json.once_none (Json.textAs_of (Instant.ofText?_toText wellFormed.sentAt))
  have inserted := @Parameters.foldl_insert [] message.parameters wellFormed.parameters
  simp only [decode, tree, members, Json.record, List.map_cons, List.map_nil, Json.foldMembers,
    Json.StringNode.of_text, Json.ok_bind]
  simp only [readField, Json.ok_bind, sender, receivers, content, parameters, sentAt,
    Json.noFault, Json.required, Option.getD_some, inserted, List.nil_append]
  rfl

end Message

/-! ## Messages that are read -/

namespace Json

/-- A sequence gives a value only if both of its parts do. -/
theorem bind_eq_ok {α β ε : Type} {first : Except ε α} {next : α → Except ε β} {result : β} :
    (first >>= next) = .ok result ↔ ∃ value, first = .ok value ∧ next value = .ok result := by
  cases first with
  | error cause => exact ⟨nofun, nofun⟩
  | ok value => exact ⟨fun read => ⟨value, rfl, read⟩, fun ⟨_, rfl, read⟩ => read⟩

/-- What is decoded as a text can be read. -/
theorem textAs_eq_ok {α : Type} {read : String → Option α} {tree : Tree} {value : α}
    (decoded : textAs read tree = .ok value) : ∃ text, read text = some value := by
  obtain ⟨text, -, decoded⟩ := bind_eq_ok.mp decoded
  refine ⟨text, ?_⟩
  split at decoded
  · rename_i known
    cases decoded
    exact known
  · cases decoded

/-- A field that is decoded once gets its value. -/
theorem once_eq_ok {α : Type} {held : Option α} {decode : Decoder α} {tree : Tree}
    {result : Option α} (decoded : once held decode tree = .ok result) :
    ∃ value, decode tree = .ok value ∧ result = some value := by
  unfold once at decoded
  split at decoded
  · cases decoded
  · cases read : decode tree with
    | error fault =>
      rw [read] at decoded
      cases decoded
    | ok value =>
      rw [read] at decoded
      cases decoded
      exact ⟨value, rfl, rfl⟩

section record

variable {σ : Type} {read : σ → String → Tree → Except Fault σ} {holds : σ → Prop}
  (keeps : ∀ {state next name tree}, holds state → read state name tree = .ok next → holds next)

include keeps

/-- What every field keeps holds when all members have been read. -/
theorem foldMembers_keeps {members : List (StringNode × Tree)} {state result : σ}
    (before : holds state) (folded : foldMembers read state members = .ok result) :
    holds result := by
  induction members generalizing state with
  | nil =>
    cases folded
    exact before
  | cons member rest ih =>
    obtain ⟨name, -, folded⟩ := bind_eq_ok.mp folded
    obtain ⟨next, stepped, folded⟩ := bind_eq_ok.mp folded
    exact ih (keeps before stepped) folded

/-- What each item of an array keeps is kept by all of them. -/
theorem foldItems_keeps {names : List String} {items : List Tree} {state result : σ}
    (before : holds state) (folded : foldItems read state names items = .ok result) :
    holds result := by
  induction items generalizing names state with
  | nil =>
    rw [foldItems] at folded
    cases folded
    exact before
  | cons item rest ih =>
    cases names with
    | nil => cases folded
    | cons name names =>
      obtain ⟨next, stepped, folded⟩ := bind_eq_ok.mp folded
      exact ih (keeps before stepped) folded

/-- What each field of a record keeps is kept by the whole record. -/
theorem record_keeps {names : List String} {shortened : Bool} {start result : σ} {tree : Tree}
    (before : holds start) (recorded : record names shortened read start tree = .ok result) :
    holds result := by
  unfold record at recorded
  split at recorded
  · obtain ⟨state, folded, recorded⟩ := bind_eq_ok.mp recorded
    obtain ⟨_, -, recorded⟩ := bind_eq_ok.mp recorded
    cases recorded
    exact foldMembers_keeps keeps before folded
  · obtain ⟨state, folded, recorded⟩ := bind_eq_ok.mp recorded
    obtain ⟨_, -, recorded⟩ := bind_eq_ok.mp recorded
    split at recorded
    · cases recorded
    · cases recorded
      exact foldItems_keeps keeps before folded
  · cases recorded

end record

end Json

namespace Message

/-- A time that has been read is supported and settled. -/
def Fields.Supported (fields : Fields) : Prop :=
  ∀ instant, fields.sentAt = some instant → instant.IsValid ∧ instant.IsSettled

/-- A field that is read leaves the fields of a message supported. -/
theorem readField_supported {fields next : Fields} {name : String} {tree : Json.Tree}
    (supported : fields.Supported) (read : readField fields name tree = .ok next) :
    next.Supported := by
  unfold readField at read
  split at read
  case h_5 =>
    obtain ⟨sentAt, once, made⟩ := Json.bind_eq_ok.mp read
    cases made
    obtain ⟨instant, decoded, rfl⟩ := Json.once_eq_ok once
    obtain ⟨text, known⟩ := Json.textAs_eq_ok decoded
    intro other same
    cases same
    exact Instant.ofText?_isSettled known
  case h_6 =>
    unfold Json.ignore at read
    split at read
    · cases read
      exact supported
    · cases read
  all_goals
    obtain ⟨_, -, made⟩ := Json.bind_eq_ok.mp read
    cases made
    exact supported

/-- A message that is read is well formed, and its time is settled. -/
theorem decode_wellFormed {message : Message} {tree : Json.Tree}
    (decoded : decode tree = .ok message) : message.WellFormed ∧ message.sentAt.IsSettled := by
  obtain ⟨fields, recorded, decoded⟩ := Json.bind_eq_ok.mp decoded
  have supported : fields.Supported :=
    Json.record_keeps readField_supported (fun _ same => by cases same) recorded
  obtain ⟨sender, -, decoded⟩ := Json.bind_eq_ok.mp decoded
  obtain ⟨receivers, -, decoded⟩ := Json.bind_eq_ok.mp decoded
  obtain ⟨content, -, decoded⟩ := Json.bind_eq_ok.mp decoded
  obtain ⟨sentAt, required, decoded⟩ := Json.bind_eq_ok.mp decoded
  cases decoded
  have known : fields.sentAt = some sentAt := by
    unfold Json.required at required
    split at required
    · rename_i known
      cases required
      exact known
    · cases required
  obtain ⟨valid, settled⟩ := supported sentAt known
  exact ⟨{ parameters := Parameters.foldl_ascending List.Pairwise.nil, sentAt := valid }, settled⟩

end Message

/-! ## The codec -/

namespace Codec

variable {message : Message}

/-- The JSON of a message is read as the message, but for its time, which is read as written. -/
theorem decode_toJson (wellFormed : message.WellFormed) :
    json.decode (Text.Glyph.ofText message.toJson) = .ok message.settled := by
  have read : Json.decodeText Message.decode (Text.Glyph.ofText message.toJson) =
      .ok message.settled := by
    unfold Json.decodeText
    rw [message.toJson_spells.document]
    simp only [Message.decode_tree wellFormed, Json.ok_bind, Bool.false_eq_true, if_false]
  simp only [json, read, Except.mapError]

/-- Whatever the JSON codec reads is well formed, and its time is settled. -/
theorem wellFormed_of_decode {glyphs : List Text.Glyph}
    (decoded : json.decode glyphs = .ok message) :
    message.WellFormed ∧ message.sentAt.IsSettled := by
  simp only [json] at decoded
  cases read : Json.decodeText Message.decode glyphs with
  | error fault =>
    rw [read] at decoded
    cases decoded
  | ok received =>
    rw [read] at decoded
    cases decoded
    obtain ⟨value, decoded, checked⟩ := Json.bind_eq_ok.mp read
    split at checked
    · cases checked
    · cases checked
      exact Message.decode_wellFormed decoded

/-- The JSON codec carries every message, and settles its time. -/
theorem carry_json (wellFormed : message.WellFormed) :
    json.carry message = .ok message.settled := by
  have encoded : json.encode message = .ok (Text.Glyph.ofText message.toJson) := rfl
  unfold carry
  rw [encoded, Json.ok_bind]
  exact decode_toJson wellFormed

/-- The messages that survive the JSON codec. -/
theorem carry_json_iff :
    json.carry message = .ok message ↔ message.WellFormed ∧ message.sentAt.IsSettled := by
  refine ⟨fun carried => ?_, fun ⟨wellFormed, settled⟩ => ?_⟩
  · obtain ⟨glyphs, -, decoded⟩ := Json.bind_eq_ok.mp carried
    exact wellFormed_of_decode decoded
  · rw [carry_json wellFormed, Message.settled_of_isSettled settled]

end Codec

end Deliberation
