import Garlemald.Library.Cursor
import Mathlib.Data.List.Forall2

/-!
Lists that go out in batches. A body is written from its start to its end, with gaps that
stay zero; a batch is read by its count field, or by its capacity where it has none; and a
loop picks the batches by the number of items that are left.
-/

namespace Library

def padTo (position : ℕ) (front : Bytes) : Bytes := front ++ zeros (position - front.length)

theorem length_padTo {position : ℕ} {front : Bytes} (past : front.length ≤ position) :
    (padTo position front).length = position := by
  rw [padTo, List.length_append, length_zeros]
  omega

theorem prefix_padTo (position : ℕ) (front : Bytes) : front <+: padTo position front :=
  List.prefix_append _ _

theorem length_rows {α : Type} {row : α → Bytes} {stride : ℕ} (whole : ∀ x, (row x).length = stride)
    (xs : List α) : (xs.flatMap row).length = stride * xs.length := by
  induction xs with
  | nil => rfl
  | cons x xs ih =>
      rw [List.flatMap_cons, List.length_append, ih, whole, List.length_cons, Nat.mul_succ,
        Nat.add_comm]

namespace Writer

open BodyCursor

variable {n : ℕ} {front : Bytes}

def behind (n : ℕ) (front : Bytes) : BodyCursor := ⟨padTo n front, front.length⟩

/-- The writer goes on from one front of a body to another. -/
def Extends (n : ℕ) (w : Writer Unit) (front front' : Bytes) : Prop :=
  w.run (behind n front) = some ((), behind n front')

theorem extends_pure (n : ℕ) (front : Bytes) : Extends n (pure ()) front front := rfl

theorem Extends.bind {w w' : Writer Unit} {middle front' : Bytes}
    (first : Extends n w front middle) (second : Extends n w' middle front') :
    Extends n (w >>= fun _ => w') front front' := by
  rw [Extends, StateT.run_bind, first]
  exact second

theorem extends_all {bs : Bytes} (fits : front.length + bs.length ≤ n) :
    Extends n (all bs) front (front ++ bs) := by
  have written := all_blank bs front (show bs.length ≤ n - front.length by omega)
  rw [Nat.sub_sub, ← List.length_append] at written
  exact written

theorem extends_parts {parts : List Bytes} (fits : front.length + parts.flatten.length ≤ n) :
    Extends n (parts.forM all) front (front ++ parts.flatten) := by
  have written := forM_all_blank parts front
    (show parts.flatten.length ≤ n - front.length by omega)
  rw [Nat.sub_sub, ← List.length_append] at written
  exact written

theorem extends_seek {position : ℕ} (past : front.length ≤ position)
    (inside : position ≤ n) : Extends n (seek position) front (padTo position front) := by
  have moved := seek_blank front past (show position ≤ front.length + (n - front.length) by omega)
  have length := length_padTo past
  have rest : n - front.length - (position - front.length) =
      n - (front ++ zeros (position - front.length)).length := by
    rw [padTo] at length
    omega
  rw [rest] at moved
  exact moved

def slice (first size : ℕ) (w : Writer Unit) : Writer Unit := fun c =>
  if first + size ≤ c.body.length then
    (w.run ⟨(c.body.drop first).take size, 0⟩).map fun r =>
      ((), ⟨c.body.take first ++ r.2.body ++ c.body.drop (first + size), first + size⟩)
  else none

theorem extends_slice {first size : ℕ} {w : Writer Unit} {bs : Bytes}
    (start : front.length = first) (inside : first + size ≤ n) (short : bs.length ≤ size)
    (wrote : Extends size w [] bs) :
    Extends n (slice first size w) front (front ++ padTo size bs) := by
  have length : (padTo n front).length = n := length_padTo (by omega)
  have window : ((padTo n front).drop first).take size = zeros size := by
    rw [padTo, ← start, List.drop_left]
    simp only [zeros, List.take_replicate]
    congr 1
    omega
  have blank : behind size [] = ⟨zeros size, 0⟩ := by simp [behind, padTo]
  have before : (padTo n front).take first = front := by
    rw [padTo, ← start, List.take_left]
  have after : (padTo n front).drop (first + size) = zeros (n - (first + size)) := by
    rw [padTo, ← List.drop_drop, ← start, List.drop_left]
    simp only [zeros, List.drop_replicate]
    congr 1
    omega
  have whole : (front ++ padTo size bs).length = first + size := by
    rw [List.length_append, start, length_padTo short]
  rw [Extends, blank] at wrote
  change slice first size w ⟨padTo n front, front.length⟩ = _
  simp only [slice, length, inside, if_true, window, wrote, before, after]
  have rest : padTo n (front ++ padTo size bs) =
      front ++ padTo size bs ++ zeros (n - (first + size)) := by
    rw [padTo, whole]
  rw [behind, behind, rest, whole]
  rfl

theorem fill_behind {w : Writer Unit} (wrote : Extends n w [] front) :
    fill n w = some (padTo n front) := by
  have start : behind n [] = ⟨zeros n, 0⟩ := by simp [behind, padTo]
  rw [Extends, start] at wrote
  rw [fill, wrote]
  rfl

variable {α : Type}

def rowsFrom (write : ℕ → α → Writer Unit) : ℕ → List α → Writer Unit
  | _, [] => pure ()
  | i, x :: xs => do
      write i x
      rowsFrom write (i + 1) xs

/-- Each row of a body is written right behind the one before. -/
structure Rows (n first stride : ℕ) (write : ℕ → α → Writer Unit) (row : α → Bytes) : Prop where
  whole : ∀ x, (row x).length = stride
  one : ∀ i x front, front.length = first + stride * i → first + stride * (i + 1) ≤ n →
    Extends n (write i x) front (front ++ row x)

variable {row : α → Bytes}

theorem rows_of {first stride : ℕ} {write : α → Writer Unit}
    (whole : ∀ x, (row x).length = stride)
    (one : ∀ x front, front.length + (row x).length ≤ n →
      Extends n (write x) front (front ++ row x)) :
    Rows n first stride (fun _ => write) row := by
  refine ⟨whole, fun i x front start fits => one x front ?_⟩
  rw [whole, start]
  rw [Nat.mul_succ] at fits
  omega

variable {write : ℕ → α → Writer Unit} {xs : List α}

theorem Rows.extends {first stride i : ℕ} (rows : Rows n first stride write row)
    (start : front.length = first + stride * i) (fits : first + stride * (i + xs.length) ≤ n) :
    Extends n (rowsFrom write i xs) front (front ++ xs.flatMap row) := by
  induction xs generalizing i front with
  | nil =>
      rw [List.flatMap_nil, List.append_nil]
      exact extends_pure n front
  | cons x xs ih =>
      rw [List.length_cons] at fits
      have next : (front ++ row x).length = first + stride * (i + 1) := by
        rw [List.length_append, start, rows.whole, Nat.mul_succ, Nat.add_assoc]
      have inside : first + stride * (i + 1) ≤ n := by
        refine Nat.le_trans (Nat.add_le_add_left (Nat.mul_le_mul_left stride ?_) first) fits
        omega
      have later := ih next (by rwa [Nat.add_assoc, Nat.add_comm 1])
      rw [List.append_assoc] at later
      exact (rows.one i x front start inside).bind later

def countField (n : ℕ) (field : ℕ × Bytes) : Writer Unit :=
  if field.1 + field.2.length ≤ n then do
    seek field.1
    all field.2
  else pure ()

def rowsThenCount (n : ℕ) (front : Bytes) (write : ℕ → α → Writer Unit) (xs : List α)
    (count : Option (ℕ × Bytes)) : Writer Unit := do
  all front
  rowsFrom write 0 xs
  match count with
  | none => pure ()
  | some field => countField n field

def counted (n : ℕ) (front : Bytes) : Option (ℕ × Bytes) → Bytes
  | none => front
  | some field =>
      if field.1 + field.2.length ≤ n then padTo field.1 front ++ field.2 else front

theorem prefix_counted (n : ℕ) (front : Bytes) (count : Option (ℕ × Bytes)) :
    front <+: counted n front count := by
  cases count with
  | none => exact List.prefix_rfl
  | some field =>
      rw [counted]
      split
      · exact (prefix_padTo field.1 front).trans (List.prefix_append _ _)
      · exact List.prefix_rfl

theorem rowsThenCount_extends {stride : ℕ} (rows : Rows n front.length stride write row)
    (fits : front.length + stride * xs.length ≤ n) {count : Option (ℕ × Bytes)}
    (after : ∀ field, count = some field → field.1 + field.2.length ≤ n →
      front.length + stride * xs.length ≤ field.1) :
    Extends n (rowsThenCount n front write xs count) []
      (counted n (front ++ xs.flatMap row) count) := by
  have written : (front ++ xs.flatMap row).length = front.length + stride * xs.length := by
    rw [List.length_append, length_rows rows.whole]
  have header : Extends n (all front) [] front :=
    extends_all (show 0 + front.length ≤ n by omega)
  have table : Extends n (rowsFrom write 0 xs) front (front ++ xs.flatMap row) :=
    rows.extends (Nat.add_zero _).symm (by rwa [Nat.zero_add])
  refine header.bind (table.bind ?_)
  cases count with
  | none => exact extends_pure n _
  | some field =>
      dsimp only [counted]
      by_cases room : field.1 + field.2.length ≤ n
      · have behind := written.le.trans (after field rfl room)
        have moved : Extends n (seek field.1) (front ++ xs.flatMap row)
            (padTo field.1 (front ++ xs.flatMap row)) :=
          extends_seek behind (by omega)
        rw [countField, if_pos room, if_pos room]
        refine moved.bind (extends_all ?_)
        rw [length_padTo behind]
        exact room
      · rw [countField, if_neg room, if_neg room]
        exact extends_pure n _

theorem fill_rowsThenCount {stride : ℕ} (rows : Rows n front.length stride write row)
    (fits : front.length + stride * xs.length ≤ n) {count : Option (ℕ × Bytes)}
    (after : ∀ field, count = some field → field.1 + field.2.length ≤ n →
      front.length + stride * xs.length ≤ field.1) :
    ∃ body, fill n (rowsThenCount n front write xs count) = some body ∧
      front ++ xs.flatMap row <+: body ∧
        ∀ field, count = some field → field.1 + field.2.length ≤ n →
          ∃ rest, body.drop field.1 = field.2 ++ rest := by
  have written : (front ++ xs.flatMap row).length = front.length + stride * xs.length := by
    rw [List.length_append, length_rows rows.whole]
  refine ⟨_, fill_behind (rowsThenCount_extends rows fits after),
    (prefix_counted n _ count).trans (prefix_padTo n _), ?_⟩
  rintro field rfl room
  have length := length_padTo (written.le.trans (after field rfl room))
  rw [counted, if_pos room]
  refine ⟨zeros (n - (padTo field.1 (front ++ xs.flatMap row) ++ field.2).length), ?_⟩
  rw [padTo, List.append_assoc]
  exact List.drop_left' length

end Writer

section Batches

variable {α ω π : Type}

def rowAt (first stride : ℕ) (read : Reader ω) (i : ℕ) (body : Bytes) : Option ω :=
  read.parse (body.drop (first + stride * i))

variable {row : α → Bytes} {read : Reader ω} {wire : α → ω} {front : Bytes}

theorem rowAt_row {stride : ℕ} (whole : ∀ x, (row x).length = stride)
    (reads : ∀ x rest, read.parse (row x ++ rest) = some (wire x)) {body : Bytes} {xs : List α}
    (laid : front ++ xs.flatMap row <+: body) {i : ℕ} {x : α}
    (here : xs[i]? = some x) : rowAt front.length stride read i body = some (wire x) := by
  obtain ⟨rest, rfl⟩ := laid
  obtain ⟨inside, rfl⟩ := List.getElem?_eq_some_iff.mp here
  have split : xs = xs.take i ++ xs[i] :: xs.drop (i + 1) := by
    rw [List.getElem_cons_drop, List.take_append_drop]
  have skipped : (front ++ (xs.take i).flatMap row).length = front.length + stride * i := by
    rw [List.length_append, length_rows whole, List.length_take, Nat.min_eq_left inside.le]
  have body : front ++ xs.flatMap row ++ rest = (front ++ (xs.take i).flatMap row) ++
      (row xs[i] ++ ((xs.drop (i + 1)).flatMap row ++ rest)) := by
    conv_lhs => rw [split, List.flatMap_append, List.flatMap_cons]
    simp only [List.append_assoc]
  rw [rowAt, body, ← skipped, List.drop_left, reads]

theorem mapM_of_forall₂ {β γ : Type} {f : β → Option γ} {xs : List β} {ys : List γ}
    (each : List.Forall₂ (fun x y => f x = some y) xs ys) : xs.mapM f = some ys := by
  induction each with
  | nil => rfl
  | cons first _ ih =>
      rw [List.mapM_cons, first, ih]
      rfl

structure Batch (ω : Type) where
  capacity : ℕ
  /-- The count field, where there is one. -/
  count : Option (Bytes → Option ℕ)
  entry : ℕ → Bytes → Option ω

namespace Batch

def size (batch : Batch ω) (body : Bytes) : Option ℕ :=
  match batch.count with
  | some read => read body
  | none => some batch.capacity

def decode (batch : Batch ω) (body : Bytes) : Option (List ω) := do
  let n ← batch.size body
  (List.range n).mapM fun i => batch.entry i body

theorem decode_eq {batch : Batch ω} {body : Bytes} {xs : List α}
    (size : batch.size body = some xs.length)
    (entries : ∀ i x, xs[i]? = some x → batch.entry i body = some (wire x)) :
    batch.decode body = some (xs.map wire) := by
  have each : List.Forall₂ (fun i y => batch.entry i body = some y) (List.range xs.length)
      (xs.map wire) := by
    refine List.forall₂_iff_get.mpr ⟨by simp, fun i inRange inside => ?_⟩
    rw [List.length_map] at inside
    have here : xs[i]? = some xs[i] := List.getElem?_eq_getElem inside
    simp [entries i xs[i] here]
  rw [decode, size]
  exact mapM_of_forall₂ each

end Batch

/-- The items of a list from one index to another; `none` is a panic. -/
def itemsBetween (items : List α) (first last : ℕ) : Option (List α) :=
  if first ≤ last ∧ last ≤ items.length then some ((items.drop first).take (last - first))
  else none

/-- What goes out next of a list from an offset, and the offset behind it; `none` is a
panic. -/
abbrev Rung (α π : Type) := List α → ℕ → Option (π × ℕ)

/-- A loop that sends a list. The number of items that are left picks the rung; the loop
ends where it picks none. -/
def ladder (rung : ℕ → Option (Rung α π)) (items : List α) : ℕ → ℕ → Option (List π)
  | 0, offset => if (rung (items.length - offset)).isNone then some [] else none
  | fuel + 1, offset =>
      match rung (items.length - offset) with
      | none => some []
      | some build => do
          let (packet, offset') ← build items offset
          let packets ← ladder rung items fuel offset'
          some (packet :: packets)

/-- The packet with the next rows of a list, as many as it has places. -/
def rowsRung (n cap : ℕ) (front : Bytes) (write : ℕ → α → Writer Unit)
    (count : Option (ℕ × (ℕ → Bytes))) (wrap : ℕ → Bytes → π) : Rung α π := fun items offset => do
  let max := min (items.length - offset) cap
  let data ← Writer.fill n (Writer.rowsThenCount n front write ((items.drop offset).take max)
    (count.map fun field => (field.1, field.2 max)))
  some (wrap offset data, offset + max)

def received (decode : π → Option (List ω)) (packets : List π) : Option (List ω) :=
  (packets.mapM decode).map List.flatten

variable {decode : π → Option (List ω)}

theorem received_cons {packet : π} {packets : List π} {first later : List ω}
    (read : decode packet = some first) (rest : received decode packets = some later) :
    received decode (packet :: packets) = some (first ++ later) := by
  obtain ⟨lists, decoded, rfl⟩ := Option.map_eq_some_iff.mp rest
  rw [received, List.mapM_cons, read, decoded]
  rfl

/-- The rung sends the next `n` items. -/
def Takes (decode : π → Option (List ω)) (wire : α → ω) (build : Rung α π) (items : List α)
    (offset n : ℕ) : Prop :=
  ∃ packet, build items offset = some (packet, offset + n) ∧
    decode packet = some (((items.drop offset).take n).map wire)

variable {n cap stride : ℕ} {write : ℕ → α → Writer Unit} {wrap : ℕ → Bytes → π}
  {items : List α} {offset : ℕ}

theorem rowsRung_takes {count : Option (ℕ × (ℕ → Bytes))} {batch : Batch ω}
    (rows : Writer.Rows n front.length stride write row)
    (reads : ∀ x rest, read.parse (row x ++ rest) = some (wire x))
    (room : front.length + stride * cap ≤ n)
    (after : ∀ field, count = some field → front.length + stride * cap ≤ field.1)
    (entry : batch.entry = rowAt front.length stride read)
    (wrapped : ∀ offset data, decode (wrap offset data) = batch.decode data)
    (counted : ∀ body : Bytes, (∀ field, count = some field →
      field.1 + (field.2 (min (items.length - offset) cap)).length ≤ n →
        ∃ rest, body.drop field.1 = field.2 (min (items.length - offset) cap) ++ rest) →
          batch.size body = some (min (items.length - offset) cap)) :
    Takes decode wire (rowsRung n cap front write count wrap) items offset
      (min (items.length - offset) cap) := by
  let taken := (items.drop offset).take (min (items.length - offset) cap)
  have length : taken.length = min (items.length - offset) cap := by
    simp [taken]
  have most : stride * taken.length ≤ stride * cap :=
    Nat.mul_le_mul_left stride (length.le.trans (Nat.min_le_right _ _))
  let field := count.map fun field => (field.1, field.2 (min (items.length - offset) cap))
  have behind : ∀ f, field = some f → f.1 + f.2.length ≤ n →
      front.length + stride * taken.length ≤ f.1 := by
    intro f there _
    obtain ⟨f', present, rfl⟩ := Option.map_eq_some_iff.mp there
    exact (Nat.add_le_add_left most _).trans (after f' present)
  obtain ⟨body, filled, laid, field'⟩ := Writer.fill_rowsThenCount rows
    (show front.length + stride * taken.length ≤ n by omega) behind
  refine ⟨wrap offset body, ?_, ?_⟩
  · rw [rowsRung]
    show (Writer.fill n (Writer.rowsThenCount n front write taken field)).bind _ = _
    rw [filled]
    rfl
  · rw [wrapped]
    refine Batch.decode_eq ?_ ?_
    · rw [length]
      refine counted body fun f present fitting => ?_
      exact field' (f.1, f.2 (min (items.length - offset) cap)) (by simp [field, present]) fitting
    · intro i x here
      rw [entry]
      exact rowAt_row rows.whole reads laid here

theorem rowsRung_full {count : Option (ℕ × (ℕ → Bytes))}
    (rows : Writer.Rows n front.length stride write row)
    (reads : ∀ x rest, read.parse (row x ++ rest) = some (wire x))
    (room : front.length + stride * cap ≤ n)
    (after : ∀ field, count = some field → front.length + stride * cap ≤ field.1)
    (wrapped : ∀ offset data, decode (wrap offset data) =
      (Batch.mk cap none (rowAt front.length stride read)).decode data)
    (full : cap ≤ items.length - offset) :
    Takes decode wire (rowsRung n cap front write count wrap) items offset cap := by
  have taken : Takes decode wire (rowsRung n cap front write count wrap) items offset
      (min (items.length - offset) cap) := by
    refine rowsRung_takes rows reads room after rfl wrapped fun body _ => ?_
    rw [Nat.min_eq_right full]
    rfl
  rwa [Nat.min_eq_right full] at taken

theorem rowsRung_counted {position : ℕ} {bytes : ℕ → Bytes} {count : Bytes → Option ℕ}
    (rows : Writer.Rows n front.length stride write row)
    (reads : ∀ x rest, read.parse (row x ++ rest) = some (wire x))
    (after : front.length + stride * cap ≤ position)
    (room : ∀ m, position + (bytes m).length ≤ n)
    (wrapped : ∀ offset data, decode (wrap offset data) =
      (Batch.mk cap (some count) (rowAt front.length stride read)).decode data)
    (counts : ∀ body m rest, m ≤ cap → body.drop position = bytes m ++ rest →
      count body = some m) (items : List α) (offset : ℕ) :
    Takes decode wire (rowsRung n cap front write (some (position, bytes)) wrap) items offset
      (min (items.length - offset) cap) := by
  have inside := room 0
  refine rowsRung_takes rows reads (by omega) ?_ rfl wrapped fun body field => ?_
  · rintro _ ⟨⟩
    exact after
  · obtain ⟨rest, there⟩ := field _ rfl (room _)
    exact counts body _ rest (Nat.min_le_right _ _) there

def oneRung (build : ℕ → α → Option π) : Rung α π := fun items offset => do
  let item ← items[offset]?
  let packet ← build offset item
  some (packet, offset + 1)

theorem oneRung_takes {build : ℕ → α → Option π}
    (builds : ∀ offset x, ∃ packet, build offset x = some packet ∧ decode packet = some [wire x])
    (more : offset < items.length) :
    Takes decode wire (oneRung build) items offset 1 := by
  obtain ⟨packet, built, read⟩ := builds offset items[offset]
  refine ⟨packet, ?_, ?_⟩
  · simp [oneRung, more, built]
  · rw [read, List.drop_eq_getElem_cons more]
    rfl

theorem fill_one {write : α → Writer Unit} (rows : Writer.Rows n 0 stride (fun _ => write) row)
    (reads : ∀ x rest, read.parse (row x ++ rest) = some (wire x)) (room : stride ≤ n) (x : α) :
    ∃ body, Writer.fill n (write x) = some body ∧
      (Batch.mk 1 none (rowAt 0 stride read)).decode body = some [wire x] := by
  have wrote : Writer.Extends n (write x) [] (row x) :=
    rows.one 0 x [] rfl (by rwa [Nat.zero_add, Nat.zero_add, Nat.mul_one])
  refine ⟨_, Writer.fill_behind wrote, ?_⟩
  refine @Batch.decode_eq α ω wire _ _ [x] rfl fun i y here => ?_
  have laid : ([] : Bytes) ++ [x].flatMap row <+: padTo n (row x) := by
    rw [List.nil_append, List.flatMap_singleton]
    exact prefix_padTo n (row x)
  exact rowAt_row rows.whole reads laid here

/-- At each number of items there is a rung that takes some of them, and none at the end. -/
structure Climbs (decode : π → Option (List ω)) (wire : α → ω) (rung : ℕ → Option (Rung α π)) :
    Prop where
  ends : rung 0 = none
  takes : ∀ items offset, offset < items.length → ∃ build n,
    rung (items.length - offset) = some build ∧ 0 < n ∧ n ≤ items.length - offset ∧
      Takes decode wire build items offset n

theorem ladder_sends {rung : ℕ → Option (Rung α π)} (climbs : Climbs decode wire rung) {fuel : ℕ}
    (enough : items.length - offset ≤ fuel) :
    ∃ packets, ladder rung items fuel offset = some packets ∧
      received decode packets = some ((items.drop offset).map wire) := by
  induction fuel generalizing offset with
  | zero =>
      have done : items.length - offset = 0 := by omega
      refine ⟨[], by rw [ladder, done, climbs.ends]; rfl, ?_⟩
      rw [List.drop_eq_nil_of_le (by omega)]
      rfl
  | succ fuel ih =>
      rw [ladder]
      by_cases more : offset < items.length
      · obtain ⟨build, n, picked, some, most, packet, built, read⟩ := climbs.takes items offset more
        obtain ⟨packets, sent, rest⟩ := ih (show items.length - (offset + n) ≤ fuel by omega)
        refine ⟨packet :: packets, by simp [picked, built, sent], ?_⟩
        rw [received_cons read rest, ← List.map_append, ← List.drop_drop,
          List.take_append_drop]
      · have done : items.length - offset = 0 := by omega
        refine ⟨[], by rw [done, climbs.ends], ?_⟩
        rw [List.drop_eq_nil_of_le (by omega)]
        rfl

end Batches

end Library
