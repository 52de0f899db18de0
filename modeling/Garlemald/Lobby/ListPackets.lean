import Garlemald.Common.SubPacket

/-!
List packets: entries in order, so many to a packet, each packet with a header that
counts its entries and marks the last packet. One loop builds every list; what the
lists differ in is their layout. Reading the packets back yields the entries.
-/

namespace Garlemald.Lobby
open Library Common

def lobbyTargetId : UInt32 := 0xe0006868

/-- The tracker is even, so its increment does not overflow. -/
def listHeader (sequence : UInt64) (chunkIndex maxPerPacket remaining : Nat) : Bytes :=
  let listTracker := UInt8.ofNat (maxPerPacket * 2 * chunkIndex)
  u64Bytes sequence ++
    ((if remaining ≤ maxPerPacket then (listTracker + 1) :: u32Bytes (UInt32.ofNat remaining)
      else listTracker :: u32Bytes (UInt32.ofNat maxPerPacket)) ++ (0 :: u16Bytes 0))

/-- `now` is the Unix time the constructor stamps. -/
def subpacketFor (now : UInt32) (opcode : UInt16) (data : Bytes) : SubPacket :=
  (SubPacket.new now opcode lobbyTargetId data).setTargetId lobbyTargetId

/-- What the lists differ in. An entry is written at `place position count`, where
`position` is behind the last write and `count` the entries in the packet so far; it may
depend on the entries before it in the whole list. -/
structure ListLayout (α : Type) where
  opcode : UInt16
  maxPerPacket : Nat
  capacity : Nat
  behindHeader : Bytes := []
  place : Nat → Nat → Nat := fun position _ => position
  entry : Nat → α → Bytes

/-- The variables of a builder: the finished packets, the packet being filled, the entries
in it and in all. -/
structure Building where
  packets : List SubPacket := []
  current : Option BodyCursor := none
  count : Nat := 0
  total : Nat := 0

namespace ListLayout

variable {α : Type} (l : ListLayout α) (clock : Nat → UInt32) (sequence : UInt64)
  (announced : Nat)

def start (s : Building) : Option BodyCursor :=
  ((do Writer.all (listHeader sequence s.packets.length l.maxPerPacket (announced - s.total))
       Writer.all l.behindHeader).run ⟨zeros l.capacity, 0⟩).map Prod.snd

def flush (s : Building) : Building :=
  match s.current with
  | some c =>
      { s with
        packets := s.packets ++ [subpacketFor (clock s.packets.length) l.opcode c.body]
        current := none }
  | none => s

def buffer (s : Building) : Option (Option BodyCursor) :=
  if s.total = 0 ∨ s.count % l.maxPerPacket = 0 then
    (l.start sequence announced s).map some
  else some s.current

def write (s : Building) (x : α) (c : BodyCursor) : Option BodyCursor :=
  ((do Writer.seek (l.place c.position s.count)
       Writer.all (l.entry s.total x)).run c).map Prod.snd

def settle (s : Building) : Building :=
  if l.maxPerPacket ≤ s.count then { l.flush clock s with count := 0 } else s

/-- One turn of the loop; `none` is a write that does not fit. -/
def push (s : Building) (x : α) : Option Building := do
  let current ←
    match ← l.buffer sequence announced s with
    | some c => (l.write s x c).map some
    | none => some none
  return l.settle clock { s with current, count := s.count + 1, total := s.total + 1 }

/-- A packet without entries. -/
def emptyPacket (capacity : Nat) : Option SubPacket :=
  (Writer.fill capacity (Writer.all (listHeader sequence 0 l.maxPerPacket 0))).map
    (subpacketFor (clock 0) l.opcode)

def packets (emptyCapacity : Nat) (xs : List α) : Option (List SubPacket) := do
  let s ← xs.foldlM (l.push clock sequence xs.length) {}
  if 0 < s.count then return (l.flush clock s).packets
  else if xs.isEmpty then return [← l.emptyPacket clock sequence emptyCapacity]
  else return s.packets

end ListLayout

/-! ### Reading a list back -/

/-- What a packet of a list says and carries, and the bytes behind the counted entries. -/
structure ListChunk (ω : Type) where
  sequence : UInt64
  tracker : UInt8
  count : UInt32
  entries : List ω
  behind : Bytes

def ListChunk.Last {ω : Type} (c : ListChunk ω) : Prop := c.tracker.toNat % 2 = 1

def entriesOf {ω : Type} (read : Reader ω) : Nat → Reader (List ω)
  | 0 => return []
  | n + 1 => do return (← read) :: (← entriesOf read n)

def ListChunk.read {ω : Type} (skip : Nat) (entry : Reader ω) : Reader (ListChunk ω) := do
  let sequence ← Reader.u64
  let tracker ← Reader.u8
  let count ← Reader.u32
  let _ ← Reader.u8
  let _ ← Reader.u16
  let _ ← Reader.bytes skip
  let entries ← entriesOf entry count.toNat
  let behind ← get
  return { sequence, tracker, count, entries, behind }

/-- The chunks carry exactly these entries in order: every count is the number of entries
in its packet, no packet holds more than `maxPerPacket`, and exactly the last is marked. -/
structure Carries {ω : Type} (maxPerPacket : Nat) (entries : List ω)
    (chunks : List (ListChunk ω)) : Prop where
  all : chunks.flatMap ListChunk.entries = entries
  counted : ∀ c ∈ chunks, c.count.toNat = c.entries.length ∧ c.entries.length ≤ maxPerPacket
  nothingBehind : ∀ c ∈ chunks, ∃ n, c.behind = zeros n
  marked : ∀ front c back, chunks = front ++ c :: back → (c.Last ↔ back = [])
  single : entries = [] → chunks.length = 1
  filled : entries ≠ [] → ∀ c ∈ chunks, c.entries ≠ []

/-! ### What the loop builds -/

def laid (stride : Nat) (bs : Bytes) : Bytes := bs ++ zeros (stride - bs.length)

theorem length_laid {stride : Nat} {bs : Bytes} (fits : bs.length ≤ stride) :
    (laid stride bs).length = stride := by
  rw [laid, List.length_append, length_zeros]
  omega

@[simp] theorem length_listHeader (sequence : UInt64) (chunkIndex maxPerPacket remaining : Nat) :
    (listHeader sequence chunkIndex maxPerPacket remaining).length = 16 := by
  rw [listHeader]
  split <;> simp

namespace ListLayout

variable {α ω : Type} (l : ListLayout α)

def first : Nat := 16 + l.behindHeader.length

/-- Entries of one kind in a layout of fixed stride: they fit, each is written where the
stride puts it, and `read` reads each from its stride. -/
structure Sound (stride : Nat) (P : α → Prop) (read : Reader ω) (wire : Nat → α → ω) : Prop where
  positive : 0 < l.maxPerPacket
  small : l.maxPerPacket < 2 ^ 32
  room : l.first + stride * l.maxPerPacket ≤ l.capacity
  placeFirst : l.place l.first 0 = l.first
  placeNext : ∀ i x n, P x → l.place (l.first + stride * n + (l.entry i x).length) (n + 1) =
    l.first + stride * (n + 1)
  fits : ∀ i x, P x → (l.entry i x).length ≤ stride
  reads : ∀ i x, P x → ∀ rest,
    read.run (laid stride (l.entry i x) ++ rest) = some (wire i x, rest)

/-- Entries with their place in the whole list, laid out one behind the other. -/
def row (stride : Nat) (ys : List (Nat × α)) : Bytes :=
  ys.flatMap fun y => laid stride (l.entry y.1 y.2)

variable (clock : Nat → UInt32) (sequence : UInt64) (announced stride : Nat)

/-- The body of the packet with index `i` and entries `ys`. -/
def body (i : Nat) (ys : List (Nat × α)) : Bytes :=
  listHeader sequence i l.maxPerPacket (announced - l.maxPerPacket * i) ++
    (l.behindHeader ++ (l.row stride ys ++
      zeros (l.capacity - l.first - stride * ys.length)))

def packet (i : Nat) (ys : List (Nat × α)) : SubPacket :=
  subpacketFor (clock i) l.opcode (l.body sequence announced stride i ys)

/-- The state of the loop between two turns: the chunks in `full` are out, `cur` is in
the buffer. -/
structure Holds (s : Building) (full : List (List (Nat × α))) (cur : List (Nat × α)) : Prop where
  fullChunks : ∀ c ∈ full, c.length = l.maxPerPacket
  partly : cur.length < l.maxPerPacket
  count : s.count = cur.length
  total : s.total = l.maxPerPacket * full.length + cur.length
  packets : s.packets = full.mapIdx (l.packet clock sequence announced stride)
  current : match cur.getLast? with
    | none => s.current = none
    | some y => s.current = some
        ⟨l.body sequence announced stride full.length cur,
          l.first + stride * (cur.length - 1) + (l.entry y.1 y.2).length⟩

variable {l clock sequence announced stride}
variable {P : α → Prop} {read : Reader ω} {wire : Nat → α → ω}

variable {full : List (List (Nat × α))} {cur : List (Nat × α)} {s : Building}
  {front back : List (List (Nat × α))} {ys : List (Nat × α)} {c : List (Nat × α)}

theorem length_row (sound : l.Sound stride P read wire) (good : ∀ y ∈ ys, P y.2) :
    (l.row stride ys).length = stride * ys.length := by
  induction ys with
  | nil => rfl
  | cons y ys ih =>
      have here := sound.fits y.1 y.2 (good y (List.mem_cons_self ..))
      have later := ih fun z member => good z (List.mem_cons_of_mem _ member)
      rw [row] at later ⊢
      rw [List.flatMap_cons, List.length_append, length_laid here, later, List.length_cons,
        Nat.mul_succ, Nat.add_comm]

theorem write_entry (sound : l.Sound stride P read wire) {i : Nat} (count : s.count = ys.length)
    {x : α} (good : ∀ z ∈ ys, P z.2) (here : P x) (partly : ys.length < l.maxPerPacket)
    {position : Nat} (at_place : l.place position ys.length = l.first + stride * ys.length) :
    l.write s x ⟨l.body sequence announced stride i ys, position⟩ =
      some ⟨l.body sequence announced stride i (ys ++ [(s.total, x)]),
        l.first + stride * ys.length + (l.entry s.total x).length⟩ := by
  have laidOut := length_row sound good
  have entryFits := sound.fits s.total x here
  have room := sound.room
  have bound : stride * ys.length + stride ≤ stride * l.maxPerPacket := by
    rw [← Nat.mul_succ]
    exact Nat.mul_le_mul_left stride partly
  generalize spot : l.first + stride * ys.length = p at *
  generalize ahead : l.capacity - l.first - stride * ys.length = free
  have front : (listHeader sequence i l.maxPerPacket (announced - l.maxPerPacket * i) ++
      (l.behindHeader ++ l.row stride ys)).length = p := by
    simp only [List.length_append, length_listHeader, laidOut, ← spot, first]
    omega
  have written := @Writer.all_blank (l.entry s.total x)
    (listHeader sequence i l.maxPerPacket (announced - l.maxPerPacket * i) ++
      (l.behindHeader ++ l.row stride ys)) free (by omega)
  have before : l.body sequence announced stride i ys =
      (listHeader sequence i l.maxPerPacket (announced - l.maxPerPacket * i) ++
        (l.behindHeader ++ l.row stride ys)) ++ zeros free := by
    simp only [body, ahead, List.append_assoc]
  have after : l.body sequence announced stride i (ys ++ [(s.total, x)]) =
      (listHeader sequence i l.maxPerPacket (announced - l.maxPerPacket * i) ++
        (l.behindHeader ++ l.row stride ys) ++ l.entry s.total x) ++
          zeros (free - (l.entry s.total x).length) := by
    have split : free - (l.entry s.total x).length = (stride - (l.entry s.total x).length) +
        (l.capacity - l.first - stride * (ys.length + 1)) := by
      rw [Nat.mul_succ]
      omega
    rw [split, zeros_add]
    simp only [body, row, List.flatMap_append, List.flatMap_cons, List.flatMap_nil, laid,
      List.append_nil, List.append_assoc, List.length_append, List.length_singleton]
  have cursor : (⟨l.body sequence announced stride i ys, p⟩ : BodyCursor) =
      BodyCursor.blank (listHeader sequence i l.maxPerPacket (announced - l.maxPerPacket * i) ++
        (l.behindHeader ++ l.row stride ys)) free := by
    rw [BodyCursor.blank, front, before]
  rw [write, count, at_place]
  change ((Writer.all (l.entry s.total x)).run
    ⟨l.body sequence announced stride i ys, p⟩).map Prod.snd = _
  rw [cursor, written, after]
  simp only [BodyCursor.blank, Option.map_some, List.length_append, ← front]

theorem start_eq (sound : l.Sound stride P read wire) {n : Nat} (packets : s.packets.length = n)
    (total : s.total = l.maxPerPacket * n) :
    l.start sequence announced s = some ⟨l.body sequence announced stride n [], l.first⟩ := by
  have room := sound.room
  have header := length_listHeader sequence n l.maxPerPacket (announced - l.maxPerPacket * n)
  have fit : 16 + l.behindHeader.length ≤ l.capacity := by
    rw [← first]
    omega
  have one := @Writer.all_blank
    (listHeader sequence n l.maxPerPacket (announced - l.maxPerPacket * n)) [] l.capacity
    (by rw [header]; omega)
  have two := @Writer.all_blank l.behindHeader
    ([] ++ listHeader sequence n l.maxPerPacket (announced - l.maxPerPacket * n))
    (l.capacity - 16) (by omega)
  have blank : (⟨zeros l.capacity, 0⟩ : BodyCursor) = BodyCursor.blank [] l.capacity := rfl
  rw [header] at one
  rw [start, packets, total, blank, StateT.run_bind, one]
  change ((Writer.all l.behindHeader).run _).map Prod.snd = _
  rw [two, Option.map_some, Option.some.injEq, BodyCursor.blank, BodyCursor.mk.injEq]
  refine ⟨?_, by simp [header, first]⟩
  simp only [body, row, List.flatMap_nil, List.nil_append, List.append_assoc, List.length_nil,
    Nat.mul_zero, Nat.sub_zero, Nat.sub_sub, first]

theorem push_eq (sound : l.Sound stride P read wire)
    (holds : l.Holds clock sequence announced stride s full cur) (good : ∀ z ∈ cur, P z.2) {x : α}
    (here : P x) :
    ∃ s', l.push clock sequence announced s x = some s' ∧ s'.total = s.total + 1 ∧
      if cur.length + 1 < l.maxPerPacket then
        l.Holds clock sequence announced stride s' full (cur ++ [(s.total, x)])
      else l.Holds clock sequence announced stride s' (full ++ [cur ++ [(s.total, x)]]) [] := by
  have positive := sound.positive
  have partly := holds.partly
  have number : s.packets.length = full.length := by rw [holds.packets, List.length_mapIdx]
  -- a buffer with the entries of `cur`, at a position from which the next entry is placed
  obtain ⟨position, found, at_place⟩ : ∃ position,
      l.buffer sequence announced s =
        some (some ⟨l.body sequence announced stride full.length cur, position⟩) ∧
      l.place position cur.length = l.first + stride * cur.length := by
    cases last : cur.getLast? with
    | none =>
        have empty : cur = [] := List.getLast?_eq_none_iff.mp last
        subst empty
        have begins : s.total = 0 ∨ s.count % l.maxPerPacket = 0 := by
          right
          rw [holds.count]
          exact Nat.zero_mod _
        refine ⟨l.first, ?_, sound.placeFirst⟩
        rw [buffer, if_pos begins, start_eq sound number holds.total]
        rfl
    | some y =>
        obtain ⟨front, rfl⟩ := List.getLast?_eq_some_iff.mp last
        have current := holds.current
        rw [last] at current
        have goes : ¬ (s.total = 0 ∨ s.count % l.maxPerPacket = 0) := by
          rw [holds.total, holds.count, Nat.mod_eq_of_lt partly, List.length_append]
          simp
        refine ⟨_, by rw [buffer, if_neg goes, current], ?_⟩
        rw [List.length_append, List.length_singleton, Nat.add_sub_cancel]
        exact sound.placeNext y.1 y.2 front.length (good y (by simp))
  have entered : l.write s x ⟨l.body sequence announced stride full.length cur, position⟩ =
      some ⟨l.body sequence announced stride full.length (cur ++ [(s.total, x)]),
        l.first + stride * cur.length + (l.entry s.total x).length⟩ :=
    write_entry sound holds.count good here partly at_place
  have pushed : l.push clock sequence announced s x = some (l.settle clock { s with
      current := some ⟨l.body sequence announced stride full.length (cur ++ [(s.total, x)]),
        l.first + stride * cur.length + (l.entry s.total x).length⟩
      count := s.count + 1
      total := s.total + 1 }) := by
    rw [push, found]
    simp only [Option.bind_eq_bind, Option.bind_some, entered]
    rfl
  refine ⟨_, pushed, ?_, ?_⟩
  · rw [settle]
    split
    · rfl
    · rfl
  · have longer : (cur ++ [(s.total, x)]).length = cur.length + 1 := by simp
    by_cases room : cur.length + 1 < l.maxPerPacket
    · have notFull : ¬ l.maxPerPacket ≤ s.count + 1 := by
        rw [holds.count]
        omega
      rw [if_pos room, settle, if_neg notFull]
      refine ⟨holds.fullChunks, by rw [longer]; exact room, ?_, ?_, holds.packets, ?_⟩
      · rw [longer, ← holds.count]
      · rw [longer, ← Nat.add_assoc, ← holds.total]
      · rw [List.getLast?_concat]
        simp only [longer, Nat.add_sub_cancel]
    · have isFull : l.maxPerPacket ≤ s.count + 1 := by
        rw [holds.count]
        omega
      rw [if_neg room, settle, if_pos isFull]
      refine ⟨?_, positive, rfl, ?_, ?_, rfl⟩
      · intro c member
        rcases List.mem_append.mp member with before | now
        · exact holds.fullChunks c before
        · rw [List.mem_singleton.mp now, longer]
          omega
      · change s.total + 1 = _
        rw [List.length_append, List.length_singleton, Nat.mul_succ, holds.total, List.length_nil]
        omega
      · change s.packets ++ [_] = _
        rw [List.mapIdx_concat, ← holds.packets, number]
        rfl

/-- The loop over a list, from a state between two turns: what is pushed is the list behind
what was there, and nothing is lost or repeated at the ends of packets. -/
theorem foldlM_push (sound : l.Sound stride P read wire) {xs : List α} (good : ∀ x ∈ xs, P x)
    (holds : l.Holds clock sequence announced stride s full cur) (goodCur : ∀ z ∈ cur, P z.2) :
    ∃ s' full' cur', xs.foldlM (l.push clock sequence announced) s = some s' ∧
      l.Holds clock sequence announced stride s' full' cur' ∧ (∀ z ∈ cur', P z.2) ∧
      full'.flatten ++ cur' =
        full.flatten ++ cur ++ xs.mapIdx fun i x => (s.total + i, x) := by
  induction xs generalizing s full cur with
  | nil => exact ⟨s, full, cur, rfl, holds, goodCur, by simp⟩
  | cons x xs ih =>
      have here := good x (List.mem_cons_self ..)
      have rest : ∀ y ∈ xs, P y := fun y member => good y (List.mem_cons_of_mem _ member)
      obtain ⟨s₁, pushed, total, step⟩ := push_eq sound holds goodCur here
      have indices : (x :: xs).mapIdx (fun i x => (s.total + i, x)) =
          (s.total, x) :: xs.mapIdx fun i x => (s₁.total + i, x) := by
        rw [List.mapIdx_cons, total]
        simp only [Nat.add_zero, Nat.add_assoc, Nat.add_comm 1]
      rw [List.foldlM_cons, pushed, indices]
      split at step
      · have goodNow : ∀ z ∈ cur ++ [(s.total, x)], P z.2 := by
          intro z member
          rcases List.mem_append.mp member with old | new
          · exact goodCur z old
          · rw [List.mem_singleton.mp new]
            exact here
        obtain ⟨s', full', cur', ran, holds', good', same⟩ := ih rest step goodNow
        refine ⟨s', full', cur', ran, holds', good', ?_⟩
        rw [same]
        simp
      · obtain ⟨s', full', cur', ran, holds', good', same⟩ := ih rest step (by simp)
        refine ⟨s', full', cur', ran, holds', good', ?_⟩
        rw [same]
        simp

def finish (l : ListLayout α) (clock : Nat → UInt32) (s : Building) : List SubPacket :=
  if 0 < s.count then (l.flush clock s).packets else s.packets

def chunked (full : List (List (Nat × α))) (cur : List (Nat × α)) : List (List (Nat × α)) :=
  if cur = [] then full else full ++ [cur]

theorem finish_eq (holds : l.Holds clock sequence announced stride s full cur) :
    l.finish clock s =
      (chunked full cur).mapIdx (l.packet clock sequence announced stride) := by
  have number : s.packets.length = full.length := by rw [holds.packets, List.length_mapIdx]
  cases last : cur.getLast? with
  | none =>
      have empty : cur = [] := List.getLast?_eq_none_iff.mp last
      have none : ¬ 0 < s.count := by rw [holds.count, empty]; simp
      rw [finish, if_neg none, chunked, if_pos empty, holds.packets]
  | some y =>
      obtain ⟨front, rfl⟩ := List.getLast?_eq_some_iff.mp last
      have current := holds.current
      rw [last] at current
      have some : 0 < s.count := by rw [holds.count]; simp
      rw [finish, if_pos some, chunked, if_neg (by simp), List.mapIdx_concat, ← holds.packets,
        flush, current, number]
      rfl

/-! ### Reading it back -/

theorem chunked_flatten (full : List (List (Nat × α))) (cur : List (Nat × α)) :
    (chunked full cur).flatten = full.flatten ++ cur := by
  rw [chunked]
  split
  · next empty => rw [empty, List.append_nil]
  · simp

theorem chunked_lengths (sound : l.Sound stride P read wire)
    (holds : l.Holds clock sequence announced stride s full cur)
    (split : chunked full cur = front ++ c :: back) :
    (∀ d ∈ front, d.length = l.maxPerPacket) ∧ 0 < c.length ∧ c.length ≤ l.maxPerPacket ∧
      (back ≠ [] → c.length = l.maxPerPacket) := by
  have positive := sound.positive
  have partly := holds.partly
  rw [chunked] at split
  by_cases empty : cur = []
  · rw [if_pos empty] at split
    have here := holds.fullChunks c (by rw [split]; simp)
    exact ⟨fun d member => holds.fullChunks d (by rw [split]; simp [member]), by omega, by omega,
      fun _ => here⟩
  · rw [if_neg empty] at split
    have some : 0 < cur.length := List.length_pos_iff.mpr empty
    rcases List.append_eq_append_iff.mp split with ⟨more, fronts, tail⟩ | ⟨more, fulls, tail⟩
    · -- the split is at `cur`
      have none : more = [] := by
        cases more with
        | nil => rfl
        | cons d more =>
            have long := congrArg List.length tail
            simp at long
      subst none
      rw [List.append_nil] at fronts
      rw [List.nil_append, List.cons.injEq] at tail
      obtain ⟨rfl, rfl⟩ := tail
      exact ⟨fun d member => holds.fullChunks d (fronts ▸ member), some, by omega,
        fun more => absurd rfl more⟩
    · -- the split is inside the full packets, or again at `cur`
      cases more with
      | nil =>
          rw [List.append_nil] at fulls
          rw [List.nil_append, List.cons.injEq] at tail
          obtain ⟨rfl, rfl⟩ := tail
          exact ⟨fun d member => holds.fullChunks d (fulls ▸ member), some, by omega,
            fun more => absurd rfl more⟩
      | cons d more =>
          rw [List.cons_append, List.cons.injEq] at tail
          obtain ⟨rfl, rfl⟩ := tail
          have here := holds.fullChunks c (by rw [fulls]; simp)
          exact ⟨fun d member => holds.fullChunks d (by rw [fulls]; simp [member]), by omega,
            by omega, fun _ => here⟩

/-- What the packet with index `i` and entries `ys` is read as. -/
def chunkOf (l : ListLayout α) (sequence : UInt64) (announced stride : Nat)
    (wire : Nat → α → ω) (i : Nat) (ys : List (Nat × α)) : ListChunk ω where
  sequence
  tracker :=
    if announced - l.maxPerPacket * i ≤ l.maxPerPacket then
      UInt8.ofNat (l.maxPerPacket * 2 * i) + 1
    else UInt8.ofNat (l.maxPerPacket * 2 * i)
  count := UInt32.ofNat ys.length
  entries := ys.map fun y => wire y.1 y.2
  behind := zeros (l.capacity - l.first - stride * ys.length)

theorem entriesOf_row (sound : l.Sound stride P read wire) (good : ∀ y ∈ ys, P y.2) (rest : Bytes) :
    (entriesOf read ys.length).run (l.row stride ys ++ rest) =
      some (ys.map fun y => wire y.1 y.2, rest) := by
  induction ys with
  | nil => rfl
  | cons y ys ih =>
      have later := ih fun z member => good z (List.mem_cons_of_mem _ member)
      have here := sound.reads y.1 y.2 (good y (List.mem_cons_self ..)) (l.row stride ys ++ rest)
      have shape : l.row stride (y :: ys) ++ rest =
          laid stride (l.entry y.1 y.2) ++ (l.row stride ys ++ rest) := by
        rw [row, List.flatMap_cons, List.append_assoc]
        rfl
      rw [List.length_cons, entriesOf, shape, StateT.run_bind, here]
      change StateT.run (entriesOf read ys.length >>= fun ws => pure (wire y.1 y.2 :: ws))
        (l.row stride ys ++ rest) = _
      rw [StateT.run_bind, later]
      rfl

theorem read_body (sound : l.Sound stride P read wire) {i : Nat} (good : ∀ y ∈ ys, P y.2)
    (bounded : ys.length ≤ l.maxPerPacket)
    (counts : ys.length = min l.maxPerPacket (announced - l.maxPerPacket * i)) :
    Reader.parse (ListChunk.read l.behindHeader.length read)
        (l.body sequence announced stride i ys) =
      some (l.chunkOf sequence announced stride wire i ys) := by
  have small := sound.small
  have number : (UInt32.ofNat ys.length).toNat = ys.length :=
    UInt32.toNat_ofNat_of_lt' (by change _ < 2 ^ 32; omega)
  have entries := entriesOf_row sound good
    (zeros (l.capacity - l.first - stride * ys.length))
  have skip := Reader.bytes_append l.behindHeader
    (l.row stride ys ++ zeros (l.capacity - l.first - stride * ys.length)) rfl
  have header : listHeader sequence i l.maxPerPacket (announced - l.maxPerPacket * i) =
      u64Bytes sequence ++ ((l.chunkOf sequence announced stride wire i ys).tracker ::
        (u32Bytes (UInt32.ofNat ys.length) ++ (0 :: u16Bytes 0))) := by
    rw [listHeader, chunkOf]
    by_cases last : announced - l.maxPerPacket * i ≤ l.maxPerPacket
    · have same : announced - l.maxPerPacket * i = ys.length := by omega
      simp only [last, if_true, List.cons_append]
      rw [same]
    · have same : l.maxPerPacket = ys.length := by omega
      simp only [last, if_false, List.cons_append]
      rw [← same]
  rw [Reader.parse, body, header]
  simp only [ListChunk.read, StateT.run_bind, List.append_assoc, List.cons_append,
    Reader.u64_append, Reader.u8_cons, Reader.u32_append, Reader.u16_append,
    Option.bind_eq_bind, Option.bind_some, skip, number, entries]
  rfl

theorem split_at {γ : Type} {cs : List γ} {i : Nat} (h : i < cs.length) :
    cs = cs.take i ++ cs[i] :: cs.drop (i + 1) := by
  rw [← List.drop_eq_getElem_cons h, List.take_append_drop]

theorem map_mapIdx {γ δ ε : Type} (g : δ → ε) (f : Nat → γ → δ) (cs : List γ) :
    (cs.mapIdx f).map g = cs.mapIdx fun i c => g (f i c) := by
  apply List.ext_getElem?
  intro i
  rw [List.getElem?_map, List.getElem?_mapIdx, List.getElem?_mapIdx, Option.map_map]
  rfl

theorem mapIdx_const {γ δ : Type} (g : γ → δ) (cs : List γ) :
    (cs.mapIdx fun _ c => g c) = cs.map g := by
  apply List.ext_getElem?
  intro i
  rw [List.getElem?_map, List.getElem?_mapIdx]

theorem remaining_eq (sound : l.Sound stride P read wire)
    (holds : l.Holds clock sequence announced stride s full cur)
    (all : (full.flatten ++ cur).length = announced)
    (split : chunked full cur = front ++ c :: back) :
    announced - l.maxPerPacket * front.length = c.length + back.flatten.length := by
  obtain ⟨before, _⟩ := chunked_lengths sound holds split
  have sum : ∀ ds : List (List (Nat × α)), (∀ d ∈ ds, d.length = l.maxPerPacket) →
      ds.flatten.length = l.maxPerPacket * ds.length := by
    intro ds exact_length
    induction ds with
    | nil => rfl
    | cons d ds ih =>
        rw [List.flatten_cons, List.length_append, exact_length d (List.mem_cons_self ..),
          ih fun e member => exact_length e (List.mem_cons_of_mem _ member), List.length_cons,
          Nat.mul_succ, Nat.add_comm]
  rw [← chunked_flatten, split, List.flatten_append, List.flatten_cons, List.length_append,
    List.length_append, sum front before] at all
  omega

theorem remaining_le_iff (sound : l.Sound stride P read wire)
    (holds : l.Holds clock sequence announced stride s full cur)
    (all : (full.flatten ++ cur).length = announced)
    (split : chunked full cur = front ++ c :: back) :
    announced - l.maxPerPacket * front.length ≤ l.maxPerPacket ↔ back = [] := by
  have remaining := remaining_eq sound holds all split
  obtain ⟨_, _, bounded, isFull⟩ := chunked_lengths sound holds split
  cases back with
  | nil =>
      rw [List.flatten_nil, List.length_nil] at remaining
      exact iff_of_true (by omega) rfl
  | cons d back =>
      have next : chunked full cur = (front ++ [c]) ++ d :: back := by rw [split]; simp
      obtain ⟨_, some, _⟩ := chunked_lengths sound holds next
      have here := isFull (by simp)
      rw [List.flatten_cons, List.length_append] at remaining
      exact iff_of_false (by omega) (by simp)

theorem last_chunkOf (l : ListLayout α) (wire : Nat → α → ω) (i : Nat) (ys : List (Nat × α)) :
    (l.chunkOf sequence announced stride wire i ys).Last ↔
      announced - l.maxPerPacket * i ≤ l.maxPerPacket := by
  have even : (UInt8.ofNat (l.maxPerPacket * 2 * i)).toNat % 2 = 0 := by
    rw [UInt8.toNat_ofNat', Nat.mul_right_comm]
    omega
  rw [ListChunk.Last, chunkOf]
  by_cases last : announced - l.maxPerPacket * i ≤ l.maxPerPacket
  · simp only [last, if_true, iff_true, UInt8.toNat_add]
    change ((UInt8.ofNat (l.maxPerPacket * 2 * i)).toNat + 1) % 256 % 2 = 1
    omega
  · simp only [last, if_false, iff_false]
    omega

theorem finish_carries (sound : l.Sound stride P read wire) (clock : Nat → UInt32)
    (sequence : UInt64) {xs : List α} (good : ∀ x ∈ xs, P x) (some_entry : xs ≠ []) :
    ∃ s chunks, xs.foldlM (l.push clock sequence xs.length) {} = some s ∧
      (l.finish clock s).map (fun p =>
        Reader.parse (ListChunk.read l.behindHeader.length read) p.data) = chunks.map some ∧
      Carries l.maxPerPacket (xs.mapIdx wire) chunks := by
  have begin : l.Holds clock sequence xs.length stride {} [] [] :=
    ⟨by simp, sound.positive, rfl, rfl, rfl, rfl⟩
  obtain ⟨s, full, cur, ran, holds, goodCur, same⟩ := foldlM_push sound good begin (by simp)
  rw [List.flatten_nil, List.nil_append, List.nil_append] at same
  simp only [Nat.zero_add] at same
  have all : (full.flatten ++ cur).length = xs.length := by rw [same, List.length_mapIdx]
  have flat : (chunked full cur).flatten = xs.mapIdx Prod.mk := by
    rw [chunked_flatten, same]
  have goodAll : ∀ c ∈ chunked full cur, ∀ y ∈ c, P y.2 := by
    intro c member y inside
    have listed : y ∈ xs.mapIdx Prod.mk := by
      rw [← flat]
      exact List.mem_flatten.mpr ⟨c, member, inside⟩
    obtain ⟨i, here, rfl⟩ := List.mem_mapIdx.mp listed
    exact good _ (List.getElem_mem here)
  refine ⟨s, (chunked full cur).mapIdx (l.chunkOf sequence xs.length stride wire), ran, ?_, ?_⟩
  · rw [finish_eq holds, map_mapIdx, map_mapIdx, List.mapIdx_eq_mapIdx_iff]
    intro i inside
    have split := split_at inside
    have length : ((chunked full cur).take i).length = i := by
      rw [List.length_take]
      omega
    obtain ⟨_, _, bounded, isFull⟩ := chunked_lengths sound holds split
    have remaining := remaining_eq sound holds all split
    have last := remaining_le_iff sound holds all split
    rw [length] at remaining last
    apply read_body sound (goodAll _ (List.getElem_mem inside)) bounded
    by_cases back : (chunked full cur).drop (i + 1) = []
    · rw [back, List.flatten_nil, List.length_nil] at remaining
      omega
    · have here := isFull back
      have more := mt last.mp back
      omega
  · constructor
    · have entries : (fun i ys => (l.chunkOf sequence xs.length stride wire i ys).entries) =
          fun (_ : Nat) (ys : List (Nat × α)) => ys.map fun y => wire y.1 y.2 := rfl
      rw [List.flatMap_def, map_mapIdx, entries, mapIdx_const, ← List.map_flatten, flat, map_mapIdx]
    · intro c member
      obtain ⟨i, inside, rfl⟩ := List.mem_mapIdx.mp member
      obtain ⟨_, _, bounded, _⟩ := chunked_lengths sound holds (split_at inside)
      have small := sound.small
      refine ⟨?_, by rw [chunkOf, List.length_map]; exact bounded⟩
      rw [chunkOf, List.length_map]
      exact UInt32.toNat_ofNat_of_lt' (by change _ < 2 ^ 32; omega)
    · intro c member
      obtain ⟨i, inside, rfl⟩ := List.mem_mapIdx.mp member
      exact ⟨_, rfl⟩
    · intro front c back split
      obtain ⟨fronts, tail, whole, rfl, rest⟩ := List.mapIdx_eq_append_iff.mp split
      obtain ⟨ys, backs, rfl, rfl, rfl⟩ := List.mapIdx_eq_cons_iff.mp rest
      rw [last_chunkOf, Nat.zero_add, remaining_le_iff sound holds all whole,
        List.mapIdx_eq_nil_iff]
    · intro nothing
      exact absurd (List.mapIdx_eq_nil_iff.mp nothing) some_entry
    · intro _ c member
      obtain ⟨i, inside, rfl⟩ := List.mem_mapIdx.mp member
      obtain ⟨_, some, _⟩ := chunked_lengths sound holds (split_at inside)
      rw [chunkOf]
      intro none
      rw [List.map_eq_nil_iff.mp none] at some
      exact Nat.lt_irrefl 0 some

theorem emptyPacket_carries (read : Reader ω) (clock : Nat → UInt32) (sequence : UInt64)
    {capacity : Nat} (room : l.first ≤ capacity) : ∃ p chunk,
      l.emptyPacket clock sequence capacity = some p ∧
      Reader.parse (ListChunk.read l.behindHeader.length read) p.data = some chunk ∧
      Carries l.maxPerPacket [] [chunk] := by
  rw [first] at room
  have header : listHeader sequence 0 l.maxPerPacket 0 =
      u64Bytes sequence ++ (1 :: (u32Bytes 0 ++ (0 :: u16Bytes 0))) := by
    rw [listHeader, if_pos (Nat.zero_le _), Nat.mul_zero]
    rfl
  have written := @Writer.all_blank (listHeader sequence 0 l.maxPerPacket 0) [] capacity
    (by rw [length_listHeader]; omega)
  rw [length_listHeader] at written
  have zero : zeros (capacity - 16) =
      zeros l.behindHeader.length ++ zeros (capacity - 16 - l.behindHeader.length) := by
    rw [← zeros_add, Nat.add_sub_of_le (by omega)]
  have skip := Reader.bytes_append (zeros l.behindHeader.length)
    (zeros (capacity - 16 - l.behindHeader.length)) (length_zeros _)
  refine ⟨subpacketFor (clock 0) l.opcode
      (listHeader sequence 0 l.maxPerPacket 0 ++ zeros (capacity - 16)),
    ⟨sequence, 1, 0, [], zeros (capacity - 16 - l.behindHeader.length)⟩, ?_, ?_, ?_⟩
  · rw [emptyPacket, Writer.fill_eq written, List.nil_append]
    rfl
  · change Reader.parse _ (listHeader sequence 0 l.maxPerPacket 0 ++ zeros (capacity - 16)) = _
    rw [Reader.parse, header, zero]
    simp only [ListChunk.read, StateT.run_bind, List.append_assoc, List.cons_append,
      Reader.u64_append, Reader.u8_cons, Reader.u32_append, Reader.u16_append,
      Option.bind_eq_bind, Option.bind_some, skip]
    rfl
  · refine ⟨rfl, ?_, ?_, ?_, fun _ => rfl, fun some => absurd rfl some⟩
    · intro c member
      rw [List.mem_singleton.mp member]
      exact ⟨rfl, Nat.zero_le _⟩
    · intro c member
      rw [List.mem_singleton.mp member]
      exact ⟨_, rfl⟩
    · intro front c back split
      cases front with
      | nil =>
          rw [List.nil_append, List.cons.injEq] at split
          obtain ⟨rfl, rfl⟩ := split
          exact iff_of_true rfl rfl
      | cons d front =>
          have long := congrArg List.length split
          simp at long

theorem packets_carry (sound : l.Sound stride P read wire) (clock : Nat → UInt32)
    (sequence : UInt64) (emptyCapacity : Nat) (room : l.first ≤ emptyCapacity) {xs : List α}
    (good : ∀ x ∈ xs, P x) : ∃ ps chunks,
      l.packets clock sequence emptyCapacity xs = some ps ∧
      ps.map (fun p => Reader.parse (ListChunk.read l.behindHeader.length read) p.data) =
        chunks.map some ∧
      Carries l.maxPerPacket (xs.mapIdx wire) chunks := by
  cases xs with
  | nil =>
      obtain ⟨p, chunk, built, parsed, carries⟩ :=
        emptyPacket_carries (l := l) read clock sequence room
      refine ⟨[p], [chunk], ?_, ?_, carries⟩
      · rw [packets, List.foldlM_nil]
        simp [built]
      · rw [List.map_singleton, parsed, List.map_singleton]
  | cons x xs =>
      obtain ⟨s, chunks, ran, parsed, carries⟩ :=
        finish_carries sound clock sequence good (List.cons_ne_nil x xs)
      refine ⟨_, chunks, ?_, parsed, carries⟩
      rw [packets, ran, finish]
      simp only [Option.bind_eq_bind, Option.bind_some, List.isEmpty_cons, Bool.false_eq_true,
        if_false]
      split <;> rfl

end ListLayout
end Garlemald.Lobby
