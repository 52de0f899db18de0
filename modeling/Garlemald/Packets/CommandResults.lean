import Garlemald.Library.Layout
import Garlemald.Packets.Groups

/-!
The packets of command results, which hold each field in a column of its own, and the
loops that split the results of a command into them.
-/

namespace Garlemald.Packets

open Library Common

def OP_COMMAND_RESULT_X01 : UInt16 := 0x0139
def OP_COMMAND_RESULT_X10 : UInt16 := 0x013A
def OP_COMMAND_RESULT_X18 : UInt16 := 0x013B
def OP_BATTLE_ACTION_X10 : UInt16 := 0x013A
def OP_BATTLE_ACTION_X18 : UInt16 := 0x013B

/-- A result as the battle has it, as far as it is sent. -/
structure BattleResult where
  targetActorId : UInt32
  amount : UInt16
  worldMasterTextId : UInt16
  effectId : UInt32
  param : UInt8
  hitNum : UInt8
deriving DecidableEq

structure CommandResult where
  targetId : UInt32
  hitNum : UInt8
  hitEffect : UInt32
  amount : UInt32
  worldmasterTextId : UInt16
  param : UInt32
deriving DecidableEq

def battleResultToWire (r : BattleResult) : CommandResult where
  targetId := r.targetActorId
  hitNum := r.hitNum
  hitEffect := r.effectId
  amount := r.amount.toUInt32
  worldmasterTextId := r.worldMasterTextId
  param := r.param.toUInt32

def writeResultHeader (sourceActorId animationId numActions : UInt32) (commandId marker : UInt16) :
    Writer Unit := do
  [u32Bytes sourceActorId, u32Bytes animationId].forM Writer.all
  Writer.seek 0x20
  [u32Bytes numActions, u16Bytes commandId, u16Bytes marker].forM Writer.all

/-- The places where the columns of a packet start. -/
structure ResultColumns where
  targetId : ℕ
  amount : ℕ
  worldmasterTextId : ℕ
  hitEffect : ℕ
  param : ℕ
  hitNum : ℕ

def targetField (a : CommandResult) : Bytes := u32Bytes a.targetId
def amountField (a : CommandResult) : Bytes := u16Bytes a.amount.toUInt16
def textField (a : CommandResult) : Bytes := u16Bytes a.worldmasterTextId
def effectField (a : CommandResult) : Bytes := u32Bytes a.hitEffect
def paramField (a : CommandResult) : Bytes := [a.param.toUInt8]
def hitField (a : CommandResult) : Bytes := [a.hitNum]

def resultParts (a : CommandResult) : List Bytes :=
  [targetField a, amountField a, textField a, effectField a, paramField a, hitField a]

def writeColumn (position : ℕ) (field : CommandResult → Bytes) (rows : List CommandResult) :
    Writer Unit := do
  Writer.seek position
  Writer.rowsFrom (fun _ a => Writer.all (field a)) 0 rows

-- The clock gives the time at which the packet from an offset is made.
variable (clock : ℕ → UInt32) (actorId animationId : UInt32) (commandId : UInt16)

def buildCommandResultX01 (now : UInt32) (action : CommandResult) : Option SubPacket := do
  let data ← Writer.fill (body 0x58) do
    writeResultHeader actorId animationId 1 commandId 0x810
    (resultParts action).forM Writer.all
  some (.new now OP_COMMAND_RESULT_X01 actorId data)

def buildCommandResultContainer (cap : ℕ) (opcode : UInt16) (packetSize : ℕ)
    (columns : ResultColumns) : Rung CommandResult SubPacket := fun actions listOffset => do
  let max := min (actions.length - listOffset) cap
  let rows ← itemsBetween actions listOffset (listOffset + max)
  let data ← Writer.fill (body packetSize) do
    writeResultHeader actorId animationId (.ofNat max) commandId 0x810
    writeColumn columns.targetId targetField rows
    writeColumn columns.amount amountField rows
    writeColumn columns.worldmasterTextId textField rows
    writeColumn columns.hitEffect effectField rows
    writeColumn columns.param paramField rows
    writeColumn columns.hitNum hitField rows
  some (.new (clock listOffset) opcode actorId data, listOffset + max)

def columnsX10 : ResultColumns := ⟨0x28, 0x50, 0x64, 0x78, 0xA0, 0xAA⟩

def columnsX18 : ResultColumns := ⟨0x28, 0x70, 0x94, 0xB8, 0x100, 0x112⟩

def buildCommandResultX10 := buildCommandResultContainer clock actorId animationId commandId
  10 OP_COMMAND_RESULT_X10 0xD8 columnsX10

def buildCommandResultX18 := buildCommandResultContainer clock actorId animationId commandId
  18 OP_COMMAND_RESULT_X18 0x148 columnsX18

structure BattleAction where
  targetId : UInt32
  amount : Int32
  amountMitigated : Int32
  effectId : UInt32
  param : UInt32
  animation : UInt16
  flag : UInt8
deriving DecidableEq

def battleActionParts (entry : BattleAction) : List Bytes :=
  [u32Bytes entry.targetId, u32Bytes entry.amount.toUInt32,
    u32Bytes entry.amountMitigated.toUInt32, u32Bytes entry.effectId, u32Bytes entry.param,
    u16Bytes entry.animation, [entry.flag], [0]]

def encodeBattleAction (entry : BattleAction) : Writer Unit :=
  (battleActionParts entry).forM Writer.all

section BattleActions

variable (playerActorId sourceActorId : UInt32)

def buildBattleActionContainer (cap : ℕ) (opcode : UInt16) (packetSize : ℕ) :
    Rung BattleAction SubPacket :=
  headedRung (body packetSize) cap
    (fun max => u32Bytes sourceActorId ++ (u32Bytes animationId ++
      (u16Bytes commandId ++ u16Bytes (.ofNat max))))
    encodeBattleAction fun offset => .new (clock offset) opcode playerActorId

def buildBattleActionX10 := buildBattleActionContainer clock animationId commandId playerActorId
  sourceActorId 16 OP_BATTLE_ACTION_X10 0xD8

def buildBattleActionX18 := buildBattleActionContainer clock animationId commandId playerActorId
  sourceActorId 24 OP_BATTLE_ACTION_X18 0x148

end BattleActions

def commandResultX01 : Rung CommandResult SubPacket :=
  oneRung fun offset => buildCommandResultX01 actorId animationId commandId (clock offset)

/-- The choice of the loop of `broadcast_results`. -/
def broadcastResults (remaining : ℕ) : Option (Rung CommandResult SubPacket) :=
  if remaining = 0 then none
  else if remaining = 1 then some (commandResultX01 clock actorId animationId commandId)
  else if remaining ≤ 10 then some (buildCommandResultX10 clock actorId animationId commandId)
  else some (buildCommandResultX18 clock actorId animationId commandId)

def doBattleAction (remaining : ℕ) : Option (Rung CommandResult SubPacket) :=
  if remaining = 0 then none
  else if remaining ≤ 10 then some (buildCommandResultX10 clock actorId animationId 0)
  else some (buildCommandResultX18 clock actorId animationId 0)

def deathRows (remaining : ℕ) : Option (Rung CommandResult SubPacket) :=
  if remaining = 0 then none
  else if remaining = 1 then some (commandResultX01 clock actorId 0 0)
  else some (buildCommandResultX10 clock actorId 0 0)

structure ResultEntry where
  targetId : UInt32
  amount : UInt16
  worldmasterTextId : UInt16
  hitEffect : UInt32
  param : UInt8
  hitNum : UInt8
deriving DecidableEq

def ResultEntry.of (a : CommandResult) : ResultEntry where
  targetId := a.targetId
  amount := a.amount.toUInt16
  worldmasterTextId := a.worldmasterTextId
  hitEffect := a.hitEffect
  param := a.param.toUInt8
  hitNum := a.hitNum

/-- A result of a battle, of which nothing is cut. -/
def ResultEntry.ofBattle (r : BattleResult) : ResultEntry where
  targetId := r.targetActorId
  amount := r.amount
  worldmasterTextId := r.worldMasterTextId
  hitEffect := r.effectId
  param := r.param
  hitNum := r.hitNum

/-- The fields of a result, each from its own column. -/
def resultAt (columns : ResultColumns) (i : ℕ) (body : Bytes) : Option ResultEntry := do
  let targetId ← rowAt columns.targetId 4 Reader.u32 i body
  let amount ← rowAt columns.amount 2 Reader.u16 i body
  let worldmasterTextId ← rowAt columns.worldmasterTextId 2 Reader.u16 i body
  let hitEffect ← rowAt columns.hitEffect 4 Reader.u32 i body
  let param ← rowAt columns.param 1 Reader.u8 i body
  let hitNum ← rowAt columns.hitNum 1 Reader.u8 i body
  some ⟨targetId, amount, worldmasterTextId, hitEffect, param, hitNum⟩

def resultFormats : Formats ResultEntry :=
  [(0x0139, ⟨1, some (u32At 0x20), resultAt ⟨0x28, 0x2C, 0x2E, 0x30, 0x34, 0x35⟩⟩),
    (0x013A, ⟨10, some (u32At 0x20), resultAt columnsX10⟩),
    (0x013B, ⟨18, some (u32At 0x20), resultAt columnsX18⟩)]

/-- The bytes before the columns. -/
def resultHeader (sourceActorId animationId numActions : UInt32) (commandId marker : UInt16) :
    Bytes :=
  padTo 0x20 (u32Bytes sourceActorId ++ u32Bytes animationId) ++
    (u32Bytes numActions ++ (u16Bytes commandId ++ u16Bytes marker))

theorem length_resultHeader (sourceActorId animationId numActions : UInt32)
    (commandId marker : UInt16) :
    (resultHeader sourceActorId animationId numActions commandId marker).length = 0x28 := by
  rw [resultHeader, List.length_append, length_padTo (by simp)]
  simp

theorem header_extends {n : ℕ} (room : 0x28 ≤ n) (sourceActorId animationId numActions : UInt32)
    (commandId marker : UInt16) :
    Writer.Extends n (writeResultHeader sourceActorId animationId numActions commandId marker) []
      (resultHeader sourceActorId animationId numActions commandId marker) := by
  have ids : Writer.Extends n ([u32Bytes sourceActorId, u32Bytes animationId].forM Writer.all) []
      (u32Bytes sourceActorId ++ u32Bytes animationId) := by
    have parts : [u32Bytes sourceActorId, u32Bytes animationId].flatten =
        u32Bytes sourceActorId ++ u32Bytes animationId := by simp
    rw [← parts]
    refine Writer.extends_parts ?_
    simp
    omega
  have short : (u32Bytes sourceActorId ++ u32Bytes animationId).length ≤ 0x20 := by simp
  have moved := Writer.extends_seek short (show 0x20 ≤ n by omega)
  have rest : (u32Bytes numActions ++ (u16Bytes commandId ++ u16Bytes marker)) =
      [u32Bytes numActions, u16Bytes commandId, u16Bytes marker].flatten := by simp
  refine ids.bind (moved.bind ?_)
  rw [resultHeader, rest]
  refine Writer.extends_parts ?_
  rw [length_padTo short, ← rest]
  simpa using room

theorem header_count {sourceActorId animationId : UInt32} {commandId marker : UInt16} {m : ℕ}
    (small : m < 2 ^ 32) {body : Bytes}
    (laid : resultHeader sourceActorId animationId (.ofNat m) commandId marker <+: body) :
    u32At 0x20 body = some m := by
  obtain ⟨rest, rfl⟩ := laid
  have short : (u32Bytes sourceActorId ++ u32Bytes animationId).length ≤ 0x20 := by simp
  have there : (resultHeader sourceActorId animationId (.ofNat m) commandId marker ++
      rest).drop 0x20 = u32Count m ++ (u16Bytes commandId ++ (u16Bytes marker ++ rest)) := by
    rw [resultHeader, List.append_assoc, List.drop_left' (length_padTo short), u32Count]
    simp only [List.append_assoc]
  exact u32At_count small there

/-- The columns lie one behind the other, with room for so many rows. -/
structure ResultColumns.Fit (columns : ResultColumns) (cap n : ℕ) : Prop where
  targetId : 0x28 ≤ columns.targetId
  amount : columns.targetId + 4 * cap ≤ columns.amount
  worldmasterTextId : columns.amount + 2 * cap ≤ columns.worldmasterTextId
  hitEffect : columns.worldmasterTextId + 2 * cap ≤ columns.hitEffect
  param : columns.hitEffect + 4 * cap ≤ columns.param
  hitNum : columns.param + cap ≤ columns.hitNum
  room : columns.hitNum + cap ≤ n

theorem u16_parses (x : UInt16) (rest : Bytes) :
    Reader.u16.parse (u16Bytes x ++ rest) = some x := by
  rw [Reader.parse, Reader.u16_append]
  rfl

theorem u32_parses (x : UInt32) (rest : Bytes) :
    Reader.u32.parse (u32Bytes x ++ rest) = some x := by
  rw [Reader.parse, Reader.u32_append]
  rfl

theorem u8_parses (x : UInt8) (rest : Bytes) : Reader.u8.parse ([x] ++ rest) = some x := by
  rw [Reader.parse, List.singleton_append, Reader.u8_cons]
  rfl

/-- The columns of a packet, from the first to the last. -/
def resultColumns (columns : ResultColumns) : List (Column CommandResult) :=
  [⟨columns.targetId, 4, targetField, fun _ => length_u32Bytes _⟩,
    ⟨columns.amount, 2, amountField, fun _ => length_u16Bytes _⟩,
    ⟨columns.worldmasterTextId, 2, textField, fun _ => length_u16Bytes _⟩,
    ⟨columns.hitEffect, 4, effectField, fun _ => length_u32Bytes _⟩,
    ⟨columns.param, 1, paramField, fun _ => rfl⟩, ⟨columns.hitNum, 1, hitField, fun _ => rfl⟩]

def resultLayout {columns : ResultColumns} {cap n : ℕ} (fit : columns.Fit cap n) :
    Layout CommandResult where
  rooms := cap
  columns := resultColumns columns
  apart := by
    obtain ⟨_, _, _, _, _, _, _⟩ := fit
    simp only [resultColumns, List.pairwise_cons, List.mem_cons, forall_eq_or_imp,
      List.not_mem_nil, false_implies, implies_true, List.Pairwise.nil, and_true]
    omega

variable {columns : ResultColumns} {actions : List CommandResult}

theorem container_body {cap n : ℕ} (fit : columns.Fit cap n)
    (actorId animationId numActions : UInt32) (commandId : UInt16) {rows : List CommandResult}
    (few : rows.length ≤ cap) :
    ∃ body, (Writer.fill n do
        writeResultHeader actorId animationId numActions commandId 0x810
        writeColumn columns.targetId targetField rows
        writeColumn columns.amount amountField rows
        writeColumn columns.worldmasterTextId textField rows
        writeColumn columns.hitEffect effectField rows
        writeColumn columns.param paramField rows
        writeColumn columns.hitNum hitField rows) = some body ∧
      resultHeader actorId animationId numActions commandId 0x810 <+: body ∧
        ∀ c ∈ resultColumns columns, c.Laid cap rows body := by
  have apart : (resultColumns columns).Pairwise fun c d => c.first + c.size * cap ≤ d.first :=
    (resultLayout fit).apart
  obtain ⟨fit0, fit1, fit2, fit3, fit4, fit5, room⟩ := fit
  have header := header_extends (show 0x28 ≤ n by omega) actorId animationId numActions commandId
    0x810
  have length := length_resultHeader actorId animationId numActions commandId 0x810
  have inside : ∀ c ∈ resultColumns columns, c.first + c.size * cap ≤ n := by
    simp only [resultColumns, List.mem_cons, forall_eq_or_imp, List.not_mem_nil, false_implies,
      implies_true, and_true]
    omega
  have past : ∀ c ∈ resultColumns columns, 0x28 ≤ c.first := by
    simp only [resultColumns, List.mem_cons, forall_eq_or_imp, List.not_mem_nil, false_implies,
      implies_true, and_true]
    omega
  obtain ⟨front, wrote, kept, laid⟩ := writeColumns_extends apart inside few length.le
    (show 0x28 ≤ n by omega) past
  refine ⟨padTo n front, ?_, (prefix_padTo _ _).trans kept, laid⟩
  rw [← Writer.fill_behind (header.bind wrote)]
  simp only [writeColumns, resultColumns, writeColumn, bind_assoc, bind_pure_unit]

theorem resultAt_laid {cap : ℕ} {rows : List CommandResult} {body : Bytes}
    (laid : ∀ c ∈ resultColumns columns, c.Laid cap rows body) {i : ℕ} {a : CommandResult}
    (here : rows[i]? = some a) : resultAt columns i body = some (ResultEntry.of a) := by
  simp only [resultColumns, List.mem_cons, forall_eq_or_imp, List.not_mem_nil, false_implies,
    implies_true, and_true] at laid
  obtain ⟨target, amount, text, effect, param, hit⟩ := laid
  have targetId := target.rowAt (fun a => u32_parses a.targetId) here
  have amount := amount.rowAt (fun a => u16_parses a.amount.toUInt16) here
  have text := text.rowAt (fun a => u16_parses a.worldmasterTextId) here
  have effect := effect.rowAt (fun a => u32_parses a.hitEffect) here
  have param := param.rowAt (fun a => u8_parses a.param.toUInt8) here
  have hit := hit.rowAt (fun a => u8_parses a.hitNum) here
  simp only [resultAt, targetId, amount, text, effect, param, hit, Option.bind_eq_bind,
    Option.bind_some]
  rfl

theorem container_builds {cap packetSize : ℕ} (fit : columns.Fit cap (body packetSize))
    (opcode : UInt16) (clock : ℕ → UInt32) (actorId animationId : UInt32) (commandId : UInt16)
    {listOffset : ℕ} (within : listOffset ≤ actions.length) :
    ∃ data, buildCommandResultContainer clock actorId animationId commandId cap opcode packetSize
        columns actions listOffset = some (.new (clock listOffset) opcode actorId data,
          listOffset + min (actions.length - listOffset) cap) ∧
      ((actions.drop listOffset).take cap).length = min (actions.length - listOffset) cap ∧
        resultHeader actorId animationId (.ofNat (min (actions.length - listOffset) cap))
            commandId 0x810 <+: data ∧
          ∀ c ∈ resultColumns columns, c.Laid cap ((actions.drop listOffset).take cap) data := by
  have length : ((actions.drop listOffset).take cap).length =
      min (actions.length - listOffset) cap := by
    rw [List.length_take, List.length_drop, Nat.min_comm]
  have rows : itemsBetween actions listOffset
      (listOffset + min (actions.length - listOffset) cap) =
        some ((actions.drop listOffset).take cap) := by
    rw [itemsBetween, if_pos (by omega), Nat.add_sub_cancel_left, ← length,
      List.take_eq_take_iff.mpr]
    rw [length, List.length_drop]
    omega
  obtain ⟨data, filled, header, laid⟩ := container_body fit actorId animationId
    (.ofNat (min (actions.length - listOffset) cap)) commandId
    (List.length_take_le cap (actions.drop listOffset))
  refine ⟨data, ?_, length, header, laid⟩
  simp only [buildCommandResultContainer, rows, filled, Option.bind_eq_bind, Option.bind_some]

theorem container_takes {cap packetSize : ℕ} {opcode : UInt16}
    (fit : columns.Fit cap (body packetSize)) (small : cap < 2 ^ 32)
    (listed : resultFormats.lookup opcode = some ⟨cap, some (u32At 0x20), resultAt columns⟩)
    (clock : ℕ → UInt32) (actorId animationId : UInt32) (commandId : UInt16) {listOffset : ℕ}
    (within : listOffset ≤ actions.length) :
    Takes resultFormats.decode ResultEntry.of (buildCommandResultContainer clock actorId
      animationId commandId cap opcode packetSize columns) actions listOffset
        (min (actions.length - listOffset) cap) := by
  obtain ⟨data, built, length, header, laid⟩ := container_builds fit opcode clock actorId
    animationId commandId within
  have taken : (actions.drop listOffset).take (min (actions.length - listOffset) cap) =
      (actions.drop listOffset).take cap := by
    rw [List.take_eq_take_iff, List.length_drop]
    omega
  refine ⟨_, built, ?_⟩
  rw [taken, Formats.decode_new listed]
  refine Batch.decode_eq ?_ fun i a here => resultAt_laid laid here
  rw [length]
  exact header_count (by omega) header

theorem rowAt_first {ω : Type} {position stride : ℕ} {read : Reader ω} {x : ω}
    {front rest : Bytes} (start : front.length = position) (parses : read.parse rest = some x) :
    rowAt position stride read 0 (front ++ rest) = some x := by
  rw [rowAt, Nat.mul_zero, Nat.add_zero, List.drop_left' start, parses]

theorem resultAt_row (a : CommandResult) {front rest : Bytes} (start : front.length = 0x28) :
    resultAt ⟨0x28, 0x2C, 0x2E, 0x30, 0x34, 0x35⟩ 0 (front ++ (targetField a ++ (amountField a ++
      (textField a ++ (effectField a ++ (paramField a ++ (hitField a ++ rest))))))) =
        some (ResultEntry.of a) := by
  generalize whole : front ++ (targetField a ++ (amountField a ++ (textField a ++
    (effectField a ++ (paramField a ++ (hitField a ++ rest)))))) = data
  have target : rowAt 0x28 4 Reader.u32 0 data = some a.targetId := by
    rw [← whole]
    exact rowAt_first start (u32_parses _ _)
  have amount : rowAt 0x2C 2 Reader.u16 0 data = some a.amount.toUInt16 := by
    have split : data = (front ++ targetField a) ++ (amountField a ++ (textField a ++
        (effectField a ++ (paramField a ++ (hitField a ++ rest))))) := by
      rw [← whole, List.append_assoc]
    rw [split]
    exact rowAt_first (by simp [start, targetField]) (u16_parses _ _)
  have text : rowAt 0x2E 2 Reader.u16 0 data = some a.worldmasterTextId := by
    have split : data = (front ++ (targetField a ++ amountField a)) ++ (textField a ++
        (effectField a ++ (paramField a ++ (hitField a ++ rest)))) := by
      rw [← whole]
      simp only [List.append_assoc]
    rw [split]
    exact rowAt_first (by simp [start, targetField, amountField]) (u16_parses _ _)
  have effect : rowAt 0x30 4 Reader.u32 0 data = some a.hitEffect := by
    have split : data = (front ++ (targetField a ++ (amountField a ++ textField a))) ++
        (effectField a ++ (paramField a ++ (hitField a ++ rest))) := by
      rw [← whole]
      simp only [List.append_assoc]
    rw [split]
    exact rowAt_first (by simp [start, targetField, amountField, textField]) (u32_parses _ _)
  have param : rowAt 0x34 1 Reader.u8 0 data = some a.param.toUInt8 := by
    have split : data = (front ++ (targetField a ++ (amountField a ++ (textField a ++
        effectField a)))) ++ (paramField a ++ (hitField a ++ rest)) := by
      rw [← whole]
      simp only [List.append_assoc]
    rw [split]
    exact rowAt_first (by simp [start, targetField, amountField, textField, effectField])
      (u8_parses _ _)
  have hit : rowAt 0x35 1 Reader.u8 0 data = some a.hitNum := by
    have split : data = (front ++ (targetField a ++ (amountField a ++ (textField a ++
        (effectField a ++ paramField a))))) ++ (hitField a ++ rest) := by
      rw [← whole]
      simp only [List.append_assoc]
    rw [split]
    exact rowAt_first (by simp [start, targetField, amountField, textField, effectField,
      paramField]) (u8_parses _ _)
  simp only [resultAt, target, amount, text, effect, param, hit, Option.bind_eq_bind,
    Option.bind_some]
  rfl

theorem commandResultX01_takes (clock : ℕ → UInt32) (actorId animationId : UInt32)
    (commandId : UInt16) {offset : ℕ} (more : offset < actions.length) :
    Takes resultFormats.decode ResultEntry.of
      (commandResultX01 clock actorId animationId commandId) actions offset 1 := by
  refine oneRung_takes (fun offset a => ?_) more
  have length := length_resultHeader actorId animationId 1 commandId 0x810
  have header := header_extends (show 0x28 ≤ body 0x58 by decide) actorId animationId 1 commandId
    0x810
  have row : Writer.Extends (body 0x58) ((resultParts a).forM Writer.all)
      (resultHeader actorId animationId 1 commandId 0x810)
      (resultHeader actorId animationId 1 commandId 0x810 ++ (resultParts a).flatten) := by
    refine Writer.extends_parts ?_
    rw [length]
    simp [resultParts, targetField, amountField, textField, effectField, paramField, hitField,
      body]
  refine ⟨_, by rw [buildCommandResultX01, Writer.fill_behind (header.bind row)]; rfl, ?_⟩
  have listed : resultFormats.lookup OP_COMMAND_RESULT_X01 =
      some ⟨1, some (u32At 0x20), resultAt ⟨0x28, 0x2C, 0x2E, 0x30, 0x34, 0x35⟩⟩ := rfl
  rw [Formats.decode_new listed]
  refine @Batch.decode_eq CommandResult ResultEntry ResultEntry.of _ _ [a] ?_ fun i x here => ?_
  · exact header_count (show 1 < 2 ^ 32 by decide)
      ((List.prefix_append _ _).trans (prefix_padTo (body 0x58) _))
  · obtain ⟨inside, rfl⟩ := List.getElem?_eq_some_iff.mp here
    obtain rfl : i = 0 := Nat.lt_one_iff.mp inside
    have read := @resultAt_row a _ (zeros (body 0x58 - (resultHeader actorId animationId 1
      commandId 0x810 ++ (resultParts a).flatten).length)) length
    simpa [padTo, resultParts] using read

/-- A loop sends a list to its end, and a client that reads the packets one after the other
has read the list. -/
def Delivers {α ω : Type} (decode : SubPacket → Option (List ω)) (wire : α → ω)
    (rung : ℕ → Option (Rung α SubPacket)) : Prop :=
  ∀ items : List α, ∃ packets, ladder rung items items.length 0 = some packets ∧
    received decode packets = some (items.map wire)

theorem delivers_of_climbs {α ω : Type} {decode : SubPacket → Option (List ω)} {wire : α → ω}
    {rung : ℕ → Option (Rung α SubPacket)} (climbs : Climbs decode wire rung) :
    Delivers decode wire rung :=
  fun items => ladder_sends climbs (Nat.sub_zero items.length).le

theorem columnsX10_fit : columnsX10.Fit 10 (body 0xD8) := by
  constructor <;> decide

theorem columnsX18_fit : columnsX18.Fit 18 (body 0x148) := by
  constructor <;> decide

section Loops

variable (clock : ℕ → UInt32) (actorId animationId : UInt32) (commandId : UInt16)

theorem commandResultX10_takes {actions : List CommandResult} {offset : ℕ}
    (within : offset ≤ actions.length) :
    Takes resultFormats.decode ResultEntry.of
      (buildCommandResultX10 clock actorId animationId commandId) actions offset
        (min (actions.length - offset) 10) :=
  container_takes columnsX10_fit (by decide) rfl clock actorId animationId commandId within

theorem commandResultX18_takes {actions : List CommandResult} {offset : ℕ}
    (within : offset ≤ actions.length) :
    Takes resultFormats.decode ResultEntry.of
      (buildCommandResultX18 clock actorId animationId commandId) actions offset
        (min (actions.length - offset) 18) :=
  container_takes columnsX18_fit (by decide) rfl clock actorId animationId commandId within

theorem broadcastResults_climbs : Climbs resultFormats.decode ResultEntry.of
    (broadcastResults clock actorId animationId commandId) := by
  refine ⟨rfl, fun actions offset more => ?_⟩
  have some : actions.length - offset ≠ 0 := by omega
  by_cases one : actions.length - offset = 1
  · exact ⟨_, 1, by rw [broadcastResults, if_neg some, if_pos one], by omega, by omega,
      commandResultX01_takes clock actorId animationId commandId more⟩
  by_cases few : actions.length - offset ≤ 10
  · exact ⟨_, _, by rw [broadcastResults, if_neg some, if_neg one, if_pos few], by omega,
      Nat.min_le_left _ _, commandResultX10_takes clock actorId animationId commandId more.le⟩
  · exact ⟨_, _, by rw [broadcastResults, if_neg some, if_neg one, if_neg few], by omega,
      Nat.min_le_left _ _, commandResultX18_takes clock actorId animationId commandId more.le⟩

theorem doBattleAction_climbs : Climbs resultFormats.decode ResultEntry.of
    (doBattleAction clock actorId animationId) := by
  refine ⟨rfl, fun actions offset more => ?_⟩
  have some : actions.length - offset ≠ 0 := by omega
  by_cases few : actions.length - offset ≤ 10
  · exact ⟨_, _, by rw [doBattleAction, if_neg some, if_pos few], by omega,
      Nat.min_le_left _ _, commandResultX10_takes clock actorId animationId 0 more.le⟩
  · exact ⟨_, _, by rw [doBattleAction, if_neg some, if_neg few], by omega,
      Nat.min_le_left _ _, commandResultX18_takes clock actorId animationId 0 more.le⟩

theorem deathRows_climbs : Climbs resultFormats.decode ResultEntry.of
    (deathRows clock actorId) := by
  refine ⟨rfl, fun actions offset more => ?_⟩
  have some : actions.length - offset ≠ 0 := by omega
  by_cases one : actions.length - offset = 1
  · exact ⟨_, 1, by rw [deathRows, if_neg some, if_pos one], by omega, by omega,
      commandResultX01_takes clock actorId 0 0 more⟩
  · exact ⟨_, _, by rw [deathRows, if_neg some, if_neg one], by omega, Nat.min_le_left _ _,
      commandResultX10_takes clock actorId 0 0 more.le⟩

end Loops

theorem entry_ofBattle (r : BattleResult) :
    ResultEntry.of (battleResultToWire r) = ResultEntry.ofBattle r := by
  simp [ResultEntry.of, battleResultToWire, ResultEntry.ofBattle]

theorem battle_delivers {rung : ℕ → Option (Rung CommandResult SubPacket)}
    (climbs : Climbs resultFormats.decode ResultEntry.of rung) (results : List BattleResult) :
    ∃ packets, ladder rung (results.map battleResultToWire) results.length 0 = some packets ∧
      received resultFormats.decode packets = some (results.map ResultEntry.ofBattle) := by
  obtain ⟨packets, sent, read⟩ := delivers_of_climbs climbs (results.map battleResultToWire)
  refine ⟨packets, by rwa [List.length_map] at sent, ?_⟩
  rw [read, List.map_map]
  exact congrArg some (List.map_congr_left fun r _ => entry_ofBattle r)

/-- No loop loses, repeats or reorders what it splits, or leaves a packet's body. -/
theorem ladders_deliver (clock : ℕ → UInt32) (actorId animationId : UInt32) (commandId : UInt16)
    (locationCode sequenceId : UInt64) :
    (Delivers itemFormats.decode ItemEntry.of (packetItems clock actorId) ∧
      Delivers slotFormats.decode id (packetRemoveSlots clock actorId) ∧
      Delivers linkedFormats.decode LinkedEntry.of (packetLinkedMany clock actorId)) ∧
    (Delivers memberFormats.decode MemberEntry.of
        (memberList clock actorId locationCode sequenceId .party) ∧
      ∀ kind ≠ .party, Delivers contentFormats.decode GroupMember.actorId
        (memberList clock actorId locationCode sequenceId kind)) ∧
    (∀ results : List BattleResult,
      (∃ packets, ladder (broadcastResults clock actorId animationId commandId)
          (results.map battleResultToWire) results.length 0 = some packets ∧
        received resultFormats.decode packets = some (results.map ResultEntry.ofBattle)) ∧
      ∃ packets, ladder (doBattleAction clock actorId animationId)
          (results.map battleResultToWire) results.length 0 = some packets ∧
        received resultFormats.decode packets = some (results.map ResultEntry.ofBattle)) ∧
    Delivers resultFormats.decode ResultEntry.of (deathRows clock actorId) := by
  refine ⟨⟨?_, ?_, ?_⟩, ⟨?_, fun kind other => ?_⟩, fun results => ⟨?_, ?_⟩, ?_⟩
  · exact delivers_of_climbs (packetItems_climbs clock actorId)
  · exact delivers_of_climbs (packetRemoveSlots_climbs clock actorId)
  · exact delivers_of_climbs (packetLinkedMany_climbs clock actorId)
  · exact delivers_of_climbs (partyMembers_climb clock actorId locationCode sequenceId)
  · exact delivers_of_climbs (contentMembers_climb clock actorId locationCode sequenceId other)
  · exact battle_delivers (broadcastResults_climbs clock actorId animationId commandId) results
  · exact battle_delivers (doBattleAction_climbs clock actorId animationId) results
  · exact delivers_of_climbs (deathRows_climbs clock actorId)

end Garlemald.Packets
