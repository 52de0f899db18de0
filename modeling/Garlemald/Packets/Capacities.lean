import Garlemald.Packets.CommandResults
import Garlemald.Packets.Search

/-!
How many entries of a list fit into the packets that take them. A builder asks for as many
as its capacity; some bodies are smaller than that, and then a list that is long enough is
a panic.
-/

namespace Garlemald.Packets

open Library Common

section Rows

variable {α : Type} {parts : α → List Bytes} {stride : ℕ}

theorem parts_rows (whole : ∀ x, (parts x).flatten.length = stride) (n first : ℕ) :
    Writer.Rows n first stride (fun _ => writeParts parts) fun x => (parts x).flatten :=
  Writer.rows_of whole fun _ _ => Writer.extends_parts

theorem parts_stop (whole : ∀ x, (parts x).flatten.length = stride) (n first : ℕ) :
    Writer.RowsStop n first stride fun _ => writeParts parts :=
  Writer.rowsStop_of whole fun _ _ => Writer.fails_parts

end Rows

theorem writeItem_stop (n : ℕ) : Writer.RowsStop n 0 0x70 fun _ => writeItem := by
  refine Writer.rowsStop_of length_itemRow fun item front inside beyond => ?_
  have whole : writeItem item = Writer.all (itemRow item) := by
    rw [writeItem, encodeItem_eq]
    rfl
  rw [whole]
  exact Writer.fails_all inside beyond

/-- The builder never panics: each packet holds the next entries of the list, as many as it
has places for, each in its own place, and the offset goes on by their number. -/
def Fits {α : Type} (layout : Layout α) (build : Rung α SubPacket) : Prop :=
  ∀ items offset, Lays layout SubPacket.data build items offset

def partsLayout {α : Type} (rooms first stride : ℕ) (parts : α → List Bytes)
    (whole : ∀ x, (parts x).flatten.length = stride) : Layout α :=
  .rows rooms first stride (fun x => (parts x).flatten) whole

def itemLayout (rooms : ℕ) := Layout.rows rooms 0 0x70 itemRow length_itemRow

def slotLayout (rooms : ℕ) := Layout.rows rooms 0 2 u16Bytes length_u16Bytes

theorem length_linkedRow (linked : UInt16 × Inventory.InventoryItem) :
    (linkedRow linked).length = 6 := by
  simp [linkedRow]

def linkedLayout (rooms : ℕ) := Layout.rows rooms 0 6 linkedRow length_linkedRow

theorem length_memberRow (m : GroupMember) : (memberRow m).length = 0x30 :=
  length_padTo (by rw [length_memberParts]; decide)

def memberLayout (rooms : ℕ) := Layout.rows rooms 0x10 0x30 memberRow length_memberRow

def contentLayout (rooms : ℕ) := Layout.rows rooms 0x10 0x0C contentRow length_contentRow

theorem length_battleActionParts (entry : BattleAction) :
    (battleActionParts entry).flatten.length = 0x18 := by
  simp [battleActionParts]

theorem length_battleHeader (sourceActorId animationId : UInt32) (commandId : UInt16) (max : ℕ) :
    (u32Bytes sourceActorId ++ (u32Bytes animationId ++
      (u16Bytes commandId ++ u16Bytes (.ofNat max)))).length = 0x0C := by
  simp

def battleActionLayout (rooms : ℕ) :=
  partsLayout rooms 0x0C 0x18 battleActionParts length_battleActionParts

def itemSearchLayout (rooms : ℕ) :=
  partsLayout rooms 4 0x78 itemSearchParts fun _ => by simp [itemSearchParts]

def playerInfoLayout (rooms : ℕ) :=
  partsLayout rooms 8 0x30 playerInfoParts fun _ => by simp [playerInfoParts]

def playerCommentLayout (rooms : ℕ) :=
  partsLayout rooms 8 0xA8 playerCommentParts fun _ => by simp [playerCommentParts]

def blacklistLayout (rooms : ℕ) :=
  partsLayout rooms 4 0x20 blacklistParts fun _ => by simp [blacklistParts]

def friendLayout (rooms : ℕ) :=
  partsLayout rooms 4 0x28 friendParts fun _ => by simp [friendParts]

theorem length_namedGroupParts (linkshell : NamedGroup) :
    (namedGroupParts linkshell).flatten.length = 0x2A := by
  simp [namedGroupParts]

def namedGroupLayout (rooms : ℕ) :=
  partsLayout rooms 4 0x2A namedGroupParts length_namedGroupParts

section Builders

variable (clock : ℕ → UInt32) (actorId : UInt32)

theorem rows_fit {α : Type} {n cap first stride : ℕ} {front : Bytes}
    {write : ℕ → α → Writer Unit} {row : α → Bytes} {count : Option (ℕ × (ℕ → Bytes))}
    (rows : Writer.Rows n first stride write row) (start : front.length = first)
    (room : first + stride * cap ≤ n)
    (after : ∀ field, count = some field → first + stride * cap ≤ field.1) (opcode : UInt16) :
    Fits (.rows cap first stride row rows.whole) (rowsRung n cap front write count
      fun offset => .new (clock offset) opcode actorId) := fun _ _ =>
  rowsRung_lays rows start room (fun field present _ _ => after field present) (fun _ _ => rfl) rfl

theorem headed_fit {α : Type} {parts : α → List Bytes} {n cap first stride : ℕ}
    {header : ℕ → Bytes} (whole : ∀ x, (parts x).flatten.length = stride)
    (start : ∀ m, (header m).length = first) (room : first + stride * cap ≤ n)
    (opcode : UInt16) :
    Fits (partsLayout cap first stride parts whole) (headedRung n cap header (writeParts parts)
      fun offset => .new (clock offset) opcode actorId) := fun _ _ =>
  headedRung_lays (parts_rows whole n first) start room (fun _ _ => rfl) rfl

theorem headed_lays_iff {α : Type} {parts : α → List Bytes} {n cap rooms first stride : ℕ}
    {header : ℕ → Bytes} (whole : ∀ x, (parts x).flatten.length = stride)
    (start : ∀ m, (header m).length = first) (room : first + stride * rooms ≤ n)
    (beyond : n < first + stride * (rooms + 1)) (more : rooms < cap) (opcode : UInt16)
    (items : List α) (offset : ℕ) :
    Lays (partsLayout rooms first stride parts whole) SubPacket.data (headedRung n cap header
      (writeParts parts) fun offset => .new (clock offset) opcode actorId) items offset ↔
        items.length - offset ≤ rooms :=
  headedRung_lays_iff (parts_rows whole n first) (parts_stop whole n first) start room beyond more
    fun _ _ => rfl

theorem item_lays_iff {packetSize : ℕ} (small : body packetSize = 0x70) (opcode : UInt16)
    (items : List Inventory.InventoryItem) (offset : ℕ) :
    Lays (itemLayout 1) SubPacket.data (buildInventoryListX08 clock actorId opcode packetSize)
      items offset ↔ items.length - offset ≤ 1 := by
  rw [buildInventoryListX08, buildInventoryListN, small]
  refine rowsRung_lays_iff (writeItem_rows _) (writeItem_stop _) rfl (by decide) (by decide)
    (by decide) ?_ fun _ _ => rfl
  rintro _ ⟨⟩ m _
  decide

theorem item_panics {packetSize : ℕ} (small : body packetSize = 0x70) (opcode : UInt16)
    {items : List Inventory.InventoryItem} {offset : ℕ} (many : 1 < items.length - offset) :
    buildInventoryListX08 clock actorId opcode packetSize items offset = none := by
  rw [buildInventoryListX08, buildInventoryListN, small]
  exact rowsRung_panics (writeItem_rows _) (writeItem_stop _) rfl (by decide) (by omega)

theorem headed_panics {α : Type} {parts : α → List Bytes} {n cap first stride : ℕ}
    {header : ℕ → Bytes} (whole : ∀ x, (parts x).flatten.length = stride)
    (start : ∀ m, (header m).length = first) (inside : first ≤ n) (opcode : UInt16)
    {items : List α} {offset : ℕ}
    (beyond : n < first + stride * min (items.length - offset) cap) :
    headedRung n cap header (writeParts parts)
      (fun offset => SubPacket.new (clock offset) opcode actorId) items offset = none :=
  rowsRung_panics (parts_rows whole n first) (parts_stop whole n first) (start _) inside beyond

theorem battleActionX10_panics (animationId : UInt32) (commandId : UInt16)
    (sourceActorId : UInt32) {actions : List BattleAction} {offset : ℕ}
    (many : 7 < actions.length - offset) :
    buildBattleActionX10 clock animationId commandId actorId sourceActorId actions offset =
      none := by
  have header := length_battleHeader sourceActorId animationId commandId
  have size : body 0xD8 = 184 := by decide
  exact headed_panics clock actorId length_battleActionParts header (by omega) _ (by omega)

theorem container_lays_iff {columns : ResultColumns} {cap packetSize : ℕ}
    (fit : columns.Fit cap (body packetSize)) (opcode : UInt16) (animationId : UInt32)
    (commandId : UInt16) (actions : List CommandResult) (offset : ℕ) :
    Lays (resultLayout fit) SubPacket.data (buildCommandResultContainer clock actorId animationId
      commandId cap opcode packetSize columns) actions offset ↔ offset ≤ actions.length := by
  constructor
  · rintro ⟨packet, built, _⟩
    by_contra behind
    have nothing : itemsBetween actions offset
        (offset + min (actions.length - offset) cap) = none := by
      rw [itemsBetween, if_neg]
      omega
    rw [buildCommandResultContainer, nothing] at built
    cases built
  · intro within
    obtain ⟨data, built, length, _, laid⟩ := container_builds fit opcode clock actorId animationId
      commandId within
    rw [← length] at built
    exact ⟨_, built, Layout.holds_of_laid (List.length_take_le _ _) laid⟩

section NamedGroups

variable {now : UInt32} {linkshells : List NamedGroup}

theorem namedGroups_lay (few : linkshells.length ≤ 12) :
    ∃ packet, buildCreateNamedGroupMultiple actorId now linkshells = some packet ∧
      (namedGroupLayout 12).Holds linkshells packet.data := by
  have front : (u16Bytes (.ofNat linkshells.length) ++ u16Bytes 0).length = 4 := by simp
  obtain ⟨data, filled, holds⟩ := rowsThenCount_holds
    (parts_rows length_namedGroupParts (body 0x228) 4) front (by decide) few
    (show ∀ field, none = some field → _ by rintro _ ⟨⟩)
  refine ⟨.new now OP_CREATE_NAMED_GROUP_MULTIPLE actorId data, ?_, holds⟩
  show Option.map _ (Writer.fill _ (Writer.rowsThenCount _ _
    (fun _ => writeParts namedGroupParts) _ _)) = _
  rw [filled]
  rfl

theorem namedGroups_panic (many : 12 < linkshells.length) :
    buildCreateNamedGroupMultiple actorId now linkshells = none := by
  have front : (u16Bytes (.ofNat linkshells.length) ++ u16Bytes 0).length = 4 := by simp
  have rows := parts_rows length_namedGroupParts (body 0x228) 4
  have stops := parts_stop length_namedGroupParts (body 0x228) 4
  have beyond : body 0x228 < 4 + 0x2A * linkshells.length := by
    have most : 0x2A * 13 ≤ 0x2A * linkshells.length := Nat.mul_le_mul_left _ many
    have size : body 0x228 = 520 := by decide
    omega
  rw [← front] at rows stops beyond
  have inside : (u16Bytes (.ofNat linkshells.length) ++ u16Bytes 0).length ≤ body 0x228 := by
    rw [front]
    decide
  show Option.map _ (Writer.fill _ (Writer.rowsThenCount _ _
    (fun _ => writeParts namedGroupParts) _ _)) = _
  rw [Writer.rowsThenCount_fails rows stops inside beyond]
  rfl

theorem namedGroups_iff :
    (∃ packet, buildCreateNamedGroupMultiple actorId now linkshells = some packet ∧
      (namedGroupLayout 12).Holds linkshells packet.data) ↔ linkshells.length ≤ 12 := by
  refine ⟨?_, namedGroups_lay actorId⟩
  rintro ⟨packet, built, _⟩
  by_contra many
  rw [namedGroups_panic actorId (Nat.not_le.mp many)] at built
  cases built

end NamedGroups

end Builders

/-- The lists and offsets for which each builder fits into its body. -/
theorem list_builders_fit_iff (clock : ℕ → UInt32) (actorId sourceActorId animationId : UInt32)
    (commandId : UInt16) (locationCode sequenceId : UInt64) (searchSessionId : UInt32)
    (resultCode : UInt8) :
    -- These have room for every list.
    ((Fits (itemLayout 8) (buildInventoryListX08N clock actorId) ∧
        Fits (itemLayout 16) (buildInventoryListX16 clock actorId) ∧
        Fits (itemLayout 32) (buildInventoryListX32 clock actorId) ∧
        Fits (itemLayout 64) (buildInventoryListX64 clock actorId)) ∧
      (Fits (slotLayout 8) (buildInventoryRemoveX08 clock actorId) ∧
        Fits (slotLayout 16) (buildInventoryRemoveX16 clock actorId) ∧
        Fits (slotLayout 32) (buildInventoryRemoveX32 clock actorId) ∧
        Fits (slotLayout 64) (buildInventoryRemoveX64 clock actorId)) ∧
      (Fits (linkedLayout 8) (buildLinkedItemListX08 clock actorId) ∧
        Fits (linkedLayout 16) (buildLinkedItemListX16 clock actorId) ∧
        Fits (linkedLayout 32) (buildLinkedItemListX32 clock actorId) ∧
        Fits (linkedLayout 64) (buildLinkedItemListX64 clock actorId)) ∧
      (Fits (memberLayout 8) (buildGroupMembersX08 clock actorId locationCode sequenceId) ∧
        Fits (memberLayout 16) (buildGroupMembersX16 clock actorId locationCode sequenceId) ∧
        Fits (memberLayout 32) (buildGroupMembersX32 clock actorId locationCode sequenceId) ∧
        Fits (memberLayout 64) (buildGroupMembersX64 clock actorId locationCode sequenceId)) ∧
      (Fits (contentLayout 8) (buildContentMembersX08 clock actorId locationCode sequenceId) ∧
        Fits (contentLayout 16) (buildContentMembersX16 clock actorId locationCode sequenceId) ∧
        Fits (contentLayout 32) (buildContentMembersX32 clock actorId locationCode sequenceId) ∧
        Fits (contentLayout 64) (buildContentMembersX64 clock actorId locationCode sequenceId)) ∧
      Fits (blacklistLayout 48) (buildSendBlacklist clock actorId) ∧
      Fits (playerInfoLayout 8)
        (buildPlayerSearchInfoResult clock actorId searchSessionId resultCode)) ∧
    -- The columns of results are cut from the list at the offset.
    (∀ actions offset,
      (Lays (resultLayout columnsX10_fit) SubPacket.data
          (buildCommandResultX10 clock actorId animationId commandId) actions offset ↔
        offset ≤ actions.length) ∧
      (Lays (resultLayout columnsX18_fit) SubPacket.data
          (buildCommandResultX18 clock actorId animationId commandId) actions offset ↔
        offset ≤ actions.length)) ∧
    -- These ask for more places than their bodies have.
    (∀ items offset,
      (Lays (itemLayout 1) SubPacket.data (buildInventoryItemEnd clock actorId) items offset ↔
        items.length - offset ≤ 1) ∧
      (Lays (itemLayout 1) SubPacket.data (buildInventoryItem clock actorId) items offset ↔
        items.length - offset ≤ 1)) ∧
    (∀ actions offset,
      (Lays (battleActionLayout 7) SubPacket.data (buildBattleActionX10 clock animationId
          commandId actorId sourceActorId) actions offset ↔ actions.length - offset ≤ 7) ∧
      (Lays (battleActionLayout 11) SubPacket.data (buildBattleActionX18 clock animationId
          commandId actorId sourceActorId) actions offset ↔ actions.length - offset ≤ 11)) ∧
    (∀ friends offset, Lays (friendLayout 40) SubPacket.data (buildSendFriendlist clock actorId)
      friends offset ↔ friends.length - offset ≤ 40) ∧
    (∀ results offset, Lays (itemSearchLayout 4) SubPacket.data
      (buildItemSearchResultsBody clock actorId) results offset ↔ results.length - offset ≤ 4) ∧
    (∀ results offset, Lays (playerCommentLayout 3) SubPacket.data
      (buildPlayerSearchCommentResult clock actorId searchSessionId resultCode) results offset ↔
        results.length - offset ≤ 3) ∧
    ∀ now linkshells, (∃ packet, buildCreateNamedGroupMultiple actorId now linkshells =
        some packet ∧ (namedGroupLayout 12).Holds linkshells packet.data) ↔
      linkshells.length ≤ 12 := by
  have searchHeader : ∀ m, (playerSearchHeader searchSessionId resultCode m).length = 8 := by
    intro m
    simp [playerSearchHeader]
  have listHeader : ∀ m, (u16Bytes (.ofNat m) ++ u16Bytes 0).length = 4 := by
    intro m
    simp
  have battleHeader := length_battleHeader sourceActorId animationId commandId
  have front : (u64Bytes locationCode ++ u64Bytes sequenceId).length = 0x10 := by simp
  refine ⟨⟨?_, ?_, ?_, ?_, ?_, ?_, ?_⟩, ?_, ?_, ?_, ?_, ?_, ?_, ?_⟩
  · refine ⟨?_, ?_, ?_, ?_⟩ <;>
      exact rows_fit clock actorId (writeItem_rows _) rfl (by decide) (by rintro _ ⟨⟩; decide) _
  · refine ⟨?_, ?_, ?_, ?_⟩ <;>
      exact rows_fit clock actorId (writeSlot_rows _) rfl (by decide) (by rintro _ ⟨⟩; decide) _
  · refine ⟨?_, ?_, ?_, ?_⟩ <;>
      exact rows_fit clock actorId (writeLinked_rows _) rfl (by decide)
        (by rintro _ ⟨⟩ <;> decide) _
  · refine ⟨?_, ?_, ?_, ?_⟩ <;>
      exact rows_fit clock actorId (member_rows _) front (by decide) (by rintro _ ⟨⟩; decide) _
  · refine ⟨?_, ?_, ?_, ?_⟩ <;>
      exact rows_fit clock actorId (content_rows _) front (by decide) (by rintro _ ⟨⟩; decide) _
  · exact headed_fit clock actorId _ listHeader (by decide) _
  · exact headed_fit clock actorId _ searchHeader (by decide) _
  · exact fun actions offset =>
      ⟨container_lays_iff clock actorId columnsX10_fit _ animationId commandId actions offset,
        container_lays_iff clock actorId columnsX18_fit _ animationId commandId actions offset⟩
  · exact fun items offset => ⟨item_lays_iff clock actorId (by decide) _ items offset,
      item_lays_iff clock actorId (by decide) _ items offset⟩
  · exact fun actions offset =>
      ⟨headed_lays_iff clock actorId _ battleHeader (by decide) (by decide) (by decide) _ _ _,
        headed_lays_iff clock actorId _ battleHeader (by decide) (by decide) (by decide) _ _ _⟩
  · exact headed_lays_iff clock actorId _ listHeader (by decide) (by decide) (by decide) _
  · exact headed_lays_iff clock actorId _ (fun m => by simp) (by decide) (by decide) (by decide) _
  · exact headed_lays_iff clock actorId _ searchHeader (by decide) (by decide) (by decide) _
  · exact fun now linkshells => namedGroups_iff actorId

/-- Two items, eight actions, an offset behind an empty list, and thirteen linkshells. -/
theorem builders_overrun :
    buildInventoryItem (fun _ => 0) 7 [{}, {}] 0 = none ∧
      buildBattleActionX10 (fun _ => 0) 0 0 7 7 (List.replicate 8 ⟨1, 5, 0, 0, 0, 0, 0⟩) 0 = none ∧
      buildCommandResultX10 (fun _ => 0) 7 0 0 [] 1 = none ∧
      buildCreateNamedGroupMultiple 7 0 (List.replicate 13 (1, [], 0)) = none := by
  refine ⟨?_, ?_, by decide, namedGroups_panic 7 (by decide)⟩
  · exact item_panics _ 7 (by decide) _ (by decide)
  · refine battleActionX10_panics _ 7 0 0 7 ?_
    rw [List.length_replicate]
    decide

end Garlemald.Packets
