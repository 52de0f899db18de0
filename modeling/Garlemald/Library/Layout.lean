import Garlemald.Library.Batch
import Mathlib.Order.CompletePartialOrder
import Mathlib.Order.Interval.Set.Disjoint

/-!
The places that the entries of a list have in a body of fixed size. Each field of an entry
has a column; the columns lie apart, and a body holds a list when it holds each entry in its
places and zeros in the places that are left. A writer that needs more places than there
are leaves the body, which is a panic.
-/

namespace Library

namespace Writer

/-- The writer panics behind a front of a body. -/
def Fails (n : ℕ) (w : Writer Unit) (front : Bytes) : Prop := w.run (behind n front) = none

theorem fails_iff {n : ℕ} {w : Writer Unit} {front : Bytes} :
    Fails n w front ↔ w.run (behind n front) = none := Iff.rfl

theorem Fails.bind {n : ℕ} {w : Writer Unit} {front : Bytes} (fails : Fails n w front)
    (w' : Writer Unit) : Fails n (w >>= fun _ => w') front := by
  rw [fails_iff, StateT.run_bind, fails]
  rfl

theorem Extends.fails {n : ℕ} {w w' : Writer Unit} {front front' : Bytes}
    (first : Extends n w front front') (second : Fails n w' front') :
    Fails n (w >>= fun _ => w') front := by
  rw [fails_iff, StateT.run_bind, first]
  exact second

theorem length_behind {n : ℕ} {front : Bytes} (inside : front.length ≤ n) :
    (behind n front).body.length = n :=
  length_padTo inside

theorem fails_all {n : ℕ} {front bs : Bytes} (inside : front.length ≤ n)
    (beyond : n < front.length + bs.length) : Fails n (all bs) front := by
  have past : ¬ (behind n front).position + bs.length ≤ (behind n front).body.length := by
    rw [length_behind inside]
    exact Nat.not_le.mpr beyond
  show all bs (behind n front) = none
  rw [all, if_neg past]

theorem fails_parts {n : ℕ} {parts : List Bytes} {front : Bytes} (inside : front.length ≤ n)
    (beyond : n < front.length + parts.flatten.length) : Fails n (parts.forM all) front := by
  induction parts generalizing front with
  | nil =>
      rw [List.flatten_nil, List.length_nil] at beyond
      omega
  | cons part parts ih =>
      rw [List.flatten_cons, List.length_append] at beyond
      show Fails n (all part >>= fun _ => parts.forM all) front
      by_cases fits : front.length + part.length ≤ n
      · refine (extends_all fits).fails (ih ?_ ?_)
        · rwa [List.length_append]
        · rwa [List.length_append, Nat.add_assoc]
      · exact (fails_all inside (Nat.not_le.mp fits)).bind _

theorem fill_fails {n : ℕ} {w : Writer Unit} (fails : Fails n w []) : fill n w = none := by
  have start : behind n [] = ⟨zeros n, 0⟩ := by simp [behind, padTo]
  rw [fails_iff, start] at fails
  rw [fill, fails]
  rfl

variable {α : Type}

/-- A row that does not fit into what is left of a body is a panic. -/
def RowsStop (n first stride : ℕ) (write : ℕ → α → Writer Unit) : Prop :=
  ∀ i x front, front.length = first + stride * i → first + stride * i ≤ n →
    n < first + stride * (i + 1) → Fails n (write i x) front

theorem rowsStop_of {n first stride : ℕ} {write : α → Writer Unit} {row : α → Bytes}
    (whole : ∀ x, (row x).length = stride)
    (stops : ∀ x front, front.length ≤ n → n < front.length + (row x).length →
      Fails n (write x) front) : RowsStop n first stride (fun _ => write) := by
  intro i x front start inside beyond
  refine stops x front (start.le.trans inside) ?_
  rwa [whole, start, Nat.add_assoc, ← Nat.mul_succ]

theorem Rows.fails {n first stride : ℕ} {write : ℕ → α → Writer Unit} {row : α → Bytes}
    (rows : Rows n first stride write row) (stops : RowsStop n first stride write) {i : ℕ}
    {xs : List α} {front : Bytes} (start : front.length = first + stride * i)
    (inside : first + stride * i ≤ n) (beyond : n < first + stride * (i + xs.length)) :
    Fails n (rowsFrom write i xs) front := by
  induction xs generalizing i front with
  | nil => exact absurd beyond (Nat.not_lt.mpr inside)
  | cons x xs ih =>
      rw [List.length_cons, Nat.add_comm xs.length, ← Nat.add_assoc] at beyond
      by_cases fits : first + stride * (i + 1) ≤ n
      · have next : (front ++ row x).length = first + stride * (i + 1) := by
          rw [List.length_append, start, rows.whole, Nat.mul_succ, Nat.add_assoc]
        exact (rows.one i x front start fits).fails (ih next fits beyond)
      · exact (stops i x front start inside (Nat.not_le.mp fits)).bind _

theorem rowsThenCount_fails {n stride : ℕ} {front : Bytes} {write : ℕ → α → Writer Unit}
    {row : α → Bytes} (rows : Rows n front.length stride write row)
    (stops : RowsStop n front.length stride write) {xs : List α} (inside : front.length ≤ n)
    (beyond : n < front.length + stride * xs.length) (count : Option (ℕ × Bytes)) :
    fill n (rowsThenCount n front write xs count) = none := by
  have header : Extends n (all front) [] front :=
    extends_all (show 0 + front.length ≤ n by omega)
  have table : Fails n (rowsFrom write 0 xs) front :=
    rows.fails stops (Nat.add_zero _).symm inside (by rwa [Nat.zero_add])
  exact fill_fails (header.fails (table.bind _))

end Writer

theorem padTo_prefix_padTo {p q : ℕ} (le : p ≤ q) (front : Bytes) :
    padTo p front <+: padTo q front := by
  have split : zeros (q - front.length) =
      zeros (p - front.length) ++ zeros (q - front.length - (p - front.length)) := by
    rw [← zeros_add]
    congr 1
    omega
  rw [padTo, padTo, split, ← List.append_assoc]
  exact List.prefix_append _ _

variable {α : Type}

/-- A field of the entries of a table: where it starts, how many bytes an entry has in it,
and what they are. -/
structure Column (α : Type) where
  first : ℕ
  size : ℕ
  field : α → Bytes
  whole : ∀ x, (field x).length = size

namespace Column

def place (c : Column α) (i : ℕ) : Set ℕ :=
  Set.Ico (c.first + c.size * i) (c.first + c.size * (i + 1))

/-- The bytes in the place of an entry; `none` where the body is too short. -/
def bytesAt (c : Column α) (i : ℕ) (body : Bytes) : Option Bytes :=
  rowAt c.first c.size (Reader.bytes c.size) i body

def content (c : Column α) : Option α → Bytes
  | some x => c.field x
  | none => zeros c.size

theorem length_content (c : Column α) (x : Option α) : (c.content x).length = c.size := by
  cases x with
  | none => exact length_zeros _
  | some x => exact c.whole x

theorem flatMap_content (c : Column α) (xs : List α) (free : ℕ) :
    (xs.map some ++ List.replicate free none).flatMap c.content =
      xs.flatMap c.field ++ zeros (c.size * free) := by
  have blank : (List.replicate free none).flatMap c.content = zeros (c.size * free) := by
    induction free with
    | zero => rfl
    | succ free ih =>
        rw [List.replicate_succ, List.flatMap_cons, ih, content, Nat.mul_succ, Nat.add_comm,
          zeros_add]
  rw [List.flatMap_append, blank, List.flatMap_map]
  rfl

/-- The entries lie in the column one behind the other, and zeros lie behind them. -/
def Laid (c : Column α) (rooms : ℕ) (xs : List α) (body : Bytes) : Prop :=
  ∃ front : Bytes, front.length = c.first ∧
    padTo (c.first + c.size * rooms) (front ++ xs.flatMap c.field) <+: body

theorem Laid.rowAt {c : Column α} {rooms : ℕ} {xs : List α} {body : Bytes}
    (laid : c.Laid rooms xs body) {ω : Type} {read : Reader ω} {wire : α → ω}
    (reads : ∀ x rest, read.parse (c.field x ++ rest) = some (wire x)) {i : ℕ} {x : α}
    (here : xs[i]? = some x) : rowAt c.first c.size read i body = some (wire x) := by
  obtain ⟨front, start, laid⟩ := laid
  have found := rowAt_row c.whole reads ((prefix_padTo _ _).trans laid) here
  rwa [start] at found

theorem Laid.bytesAt {c : Column α} {rooms : ℕ} {xs : List α} {body : Bytes}
    (laid : c.Laid rooms xs body) (few : xs.length ≤ rooms) {i : ℕ} (inside : i < rooms) :
    c.bytesAt i body = some (c.content xs[i]?) := by
  obtain ⟨front, start, laid⟩ := laid
  let places := xs.map some ++ List.replicate (rooms - xs.length) none
  have here : places[i]? = some xs[i]? := by
    by_cases early : i < xs.length
    · simp only [places]
      rw [List.getElem?_append_left (by rwa [List.length_map]), List.getElem?_map,
        List.getElem?_eq_getElem early, Option.map_some]
    · have late := Nat.not_lt.mp early
      simp only [places]
      rw [List.getElem?_append_right (by rwa [List.length_map]), List.length_map,
        List.getElem?_replicate_of_lt (by omega), List.getElem?_eq_none late]
  have filled : front ++ places.flatMap c.content <+: body := by
    have rest : padTo (c.first + c.size * rooms) (front ++ xs.flatMap c.field) =
        front ++ places.flatMap c.content := by
      rw [c.flatMap_content, padTo, List.length_append, length_rows c.whole, start,
        List.append_assoc, Nat.mul_sub]
      congr 3
      omega
    rwa [rest] at laid
  have reads : ∀ (x : Option α) rest,
      (Reader.bytes c.size).parse (c.content x ++ rest) = some (c.content x) := by
    intro x rest
    rw [Reader.parse, Reader.bytes_append _ _ (c.length_content x)]
    rfl
  have found := rowAt_row c.length_content reads filled here
  rwa [start] at found

end Column

/-- The columns of a table, and how many entries it has places for. -/
structure Layout (α : Type) where
  rooms : ℕ
  columns : List (Column α)
  apart : columns.Pairwise fun c d => c.first + c.size * rooms ≤ d.first

namespace Layout

def rows (rooms first size : ℕ) (row : α → Bytes) (whole : ∀ x, (row x).length = size) :
    Layout α where
  rooms := rooms
  columns := [⟨first, size, row, whole⟩]
  apart := List.pairwise_singleton _ _

/-- No two places share a byte. -/
def Separate (layout : Layout α) : Prop :=
  ∀ c ∈ layout.columns, ∀ d ∈ layout.columns, ∀ i < layout.rooms, ∀ j < layout.rooms,
    (c, i) ≠ (d, j) → Disjoint (c.place i) (d.place j)

theorem disjoint_same (c : Column α) {i j : ℕ} (other : i ≠ j) :
    Disjoint (c.place i) (c.place j) := by
  rw [Column.place, Column.place, Set.Ico_disjoint_Ico]
  rcases Nat.lt_or_gt_of_ne other with before | behind
  · have order : c.size * (i + 1) ≤ c.size * j := Nat.mul_le_mul_left _ before
    omega
  · have order : c.size * (j + 1) ≤ c.size * i := Nat.mul_le_mul_left _ behind
    omega

theorem disjoint_apart {c d : Column α} {rooms i j : ℕ}
    (apart : c.first + c.size * rooms ≤ d.first) (inside : i < rooms) :
    Disjoint (c.place i) (d.place j) := by
  rw [Column.place, Column.place, Set.Ico_disjoint_Ico]
  have order : c.size * (i + 1) ≤ c.size * rooms := Nat.mul_le_mul_left _ inside
  omega

theorem separate (layout : Layout α) : layout.Separate := by
  intro c cListed d dListed i iInside j jInside other
  obtain ⟨m, mInside, rfl⟩ := List.getElem_of_mem cListed
  obtain ⟨k, kInside, rfl⟩ := List.getElem_of_mem dListed
  have ordered := List.pairwise_iff_getElem.mp layout.apart
  rcases Nat.lt_trichotomy m k with before | rfl | behind
  · exact disjoint_apart (ordered m k mInside kInside before) iInside
  · refine disjoint_same _ fun same => other ?_
    rw [same]
  · exact (disjoint_apart (ordered k m kInside mInside behind) jInside).symm

/-- The body holds these entries and no others. -/
structure Holds (layout : Layout α) (xs : List α) (body : Bytes) : Prop where
  few : xs.length ≤ layout.rooms
  separate : layout.Separate
  there : ∀ c ∈ layout.columns, ∀ i < layout.rooms, c.bytesAt i body = some (c.content xs[i]?)

theorem holds_of_laid {layout : Layout α} {xs : List α} {body : Bytes}
    (few : xs.length ≤ layout.rooms)
    (laid : ∀ c ∈ layout.columns, c.Laid layout.rooms xs body) : layout.Holds xs body :=
  ⟨few, layout.separate, fun c listed _ inside => (laid c listed).bytesAt few inside⟩

theorem rows_holds {rooms first size : ℕ} {row : α → Bytes} {whole : ∀ x, (row x).length = size}
    {front body : Bytes} {xs : List α} (start : front.length = first) (few : xs.length ≤ rooms)
    (laid : padTo (first + size * rooms) (front ++ xs.flatMap row) <+: body) :
    (rows rooms first size row whole).Holds xs body := by
  refine holds_of_laid few fun c listed => ?_
  obtain rfl := List.mem_singleton.mp listed
  exact ⟨front, start, laid⟩

end Layout

section Columns

/-- Columns that are written one behind the other. -/
def writeColumns : List (Column α) → List α → Writer Unit
  | [], _ => pure ()
  | c :: columns, xs => do
      Writer.seek c.first
      Writer.rowsFrom (fun _ x => Writer.all (c.field x)) 0 xs
      writeColumns columns xs

theorem writeColumns_extends {n rooms : ℕ} {columns : List (Column α)}
    (apart : columns.Pairwise fun c d => c.first + c.size * rooms ≤ d.first)
    (room : ∀ c ∈ columns, c.first + c.size * rooms ≤ n) {xs : List α}
    (few : xs.length ≤ rooms) {front : Bytes} {last : ℕ} (short : front.length ≤ last)
    (inside : last ≤ n) (past : ∀ c ∈ columns, last ≤ c.first) :
    ∃ front', Writer.Extends n (writeColumns columns xs) front front' ∧
      padTo last front <+: padTo n front' ∧
        ∀ c ∈ columns, c.Laid rooms xs (padTo n front') := by
  induction columns generalizing front last with
  | nil =>
      exact ⟨front, Writer.extends_pure n front, padTo_prefix_padTo inside front,
        fun c listed => absurd listed List.not_mem_nil⟩
  | cons c columns ih =>
      have behind : last ≤ c.first := past c List.mem_cons_self
      have fits := room c List.mem_cons_self
      have most : c.size * xs.length ≤ c.size * rooms := Nat.mul_le_mul_left c.size few
      have start : (padTo c.first front).length = c.first := length_padTo (short.trans behind)
      let front₁ := padTo c.first front ++ xs.flatMap c.field
      have length : front₁.length = c.first + c.size * xs.length := by
        rw [List.length_append, start, length_rows c.whole]
      have table : Writer.Rows n c.first c.size (fun _ x => Writer.all (c.field x)) c.field :=
        Writer.rows_of c.whole fun x front => Writer.extends_all
      have moved : Writer.Extends n (Writer.seek c.first) front (padTo c.first front) :=
        Writer.extends_seek (short.trans behind) (by omega)
      have wrote : Writer.Extends n (Writer.rowsFrom (fun _ x => Writer.all (c.field x)) 0 xs)
          (padTo c.first front) front₁ :=
        table.extends start (by rw [Nat.zero_add]; omega)
      obtain ⟨first, later⟩ := List.pairwise_cons.mp apart
      obtain ⟨front', rest, kept, laid⟩ := ih later
        (fun d listed => room d (List.mem_cons_of_mem c listed))
        (show front₁.length ≤ c.first + c.size * rooms by omega) fits first
      refine ⟨front', moved.bind (wrote.bind rest), ?_, ?_⟩
      · refine (padTo_prefix_padTo behind front).trans ?_
        exact ((List.prefix_append _ _).trans (prefix_padTo _ front₁)).trans kept
      · intro d listed
        rcases List.mem_cons.mp listed with rfl | listed
        · exact ⟨padTo d.first front, start, kept⟩
        · exact laid d listed

end Columns

section Rungs

variable {π : Type}

/-- The builder does not panic, its packet holds the next entries of the list, as many as
it has places for, and the offset goes on by their number. -/
def Lays (layout : Layout α) (data : π → Bytes) (build : Rung α π) (items : List α)
    (offset : ℕ) : Prop :=
  let taken := (items.drop offset).take layout.rooms
  ∃ packet, build items offset = some (packet, offset + taken.length) ∧
    layout.Holds taken (data packet)

theorem padTo_prefix_counted {n last : ℕ} {front : Bytes} (inside : last ≤ n)
    (count : Option (ℕ × Bytes))
    (after : ∀ field, count = some field → field.1 + field.2.length ≤ n → last ≤ field.1) :
    padTo last front <+: padTo n (Writer.counted n front count) := by
  cases count with
  | none => exact padTo_prefix_padTo inside front
  | some field =>
      rw [Writer.counted]
      by_cases fits : field.1 + field.2.length ≤ n
      · rw [if_pos fits]
        refine (padTo_prefix_padTo (after field rfl fits) front).trans ?_
        exact (List.prefix_append _ _).trans (prefix_padTo n _)
      · rw [if_neg fits]
        exact padTo_prefix_padTo inside front

variable {n cap first stride rooms : ℕ} {front : Bytes} {write : ℕ → α → Writer Unit}
  {row : α → Bytes}

theorem rowsThenCount_holds (rows : Writer.Rows n first stride write row)
    (start : front.length = first) (room : first + stride * rooms ≤ n) {xs : List α}
    (few : xs.length ≤ rooms) {count : Option (ℕ × Bytes)}
    (after : ∀ field, count = some field → field.1 + field.2.length ≤ n →
      first + stride * rooms ≤ field.1) :
    ∃ body, Writer.fill n (Writer.rowsThenCount n front write xs count) = some body ∧
      (Layout.rows rooms first stride row rows.whole).Holds xs body := by
  subst start
  have most : stride * xs.length ≤ stride * rooms := Nat.mul_le_mul_left stride few
  have wrote := Writer.rowsThenCount_extends rows
    (show front.length + stride * xs.length ≤ n by omega)
    fun field present fits => (Nat.add_le_add_left most _).trans (after field present fits)
  exact ⟨_, Writer.fill_behind wrote,
    Layout.rows_holds rfl few (padTo_prefix_counted room count after)⟩

variable {count : Option (ℕ × (ℕ → Bytes))} {wrap : ℕ → Bytes → π} {data : π → Bytes}
  {items : List α} {offset : ℕ}

theorem rowsRung_lays (rows : Writer.Rows n first stride write row)
    (start : front.length = first) (room : first + stride * rooms ≤ n)
    (after : ∀ field, count = some field → ∀ m, field.1 + (field.2 m).length ≤ n →
      first + stride * rooms ≤ field.1)
    (wrapped : ∀ offset bs, data (wrap offset bs) = bs)
    (enough : min (items.length - offset) cap = min (items.length - offset) rooms) :
    Lays (Layout.rows rooms first stride row rows.whole) data
      (rowsRung n cap front write count wrap) items offset := by
  have length : ((items.drop offset).take rooms).length = min (items.length - offset) cap := by
    rw [enough, List.length_take, List.length_drop, Nat.min_comm]
  have same : (items.drop offset).take (min (items.length - offset) cap) =
      (items.drop offset).take rooms := by
    rw [List.take_eq_take_iff, List.length_drop, enough]
    omega
  let field := count.map fun field => (field.1, field.2 (min (items.length - offset) cap))
  have behind : ∀ f, field = some f → f.1 + f.2.length ≤ n → first + stride * rooms ≤ f.1 := by
    intro f there fits
    obtain ⟨f', present, rfl⟩ := Option.map_eq_some_iff.mp there
    exact after f' present _ fits
  obtain ⟨body, filled, holds⟩ := rowsThenCount_holds rows start room
    (List.length_take_le rooms (items.drop offset)) behind
  refine ⟨wrap offset body, ?_, ?_⟩
  · show rowsRung n cap front write count wrap items offset =
      some (wrap offset body, offset + ((items.drop offset).take rooms).length)
    rw [rowsRung, same, length]
    show (Writer.fill n (Writer.rowsThenCount n front write _ field)).bind _ = _
    rw [filled]
    rfl
  · rwa [wrapped]

theorem rowsRung_panics (rows : Writer.Rows n first stride write row)
    (stops : Writer.RowsStop n first stride write) (start : front.length = first)
    (inside : first ≤ n) (beyond : n < first + stride * min (items.length - offset) cap) :
    rowsRung n cap front write count wrap items offset = none := by
  subst start
  have length : ((items.drop offset).take (min (items.length - offset) cap)).length =
      min (items.length - offset) cap := by
    rw [List.length_take, List.length_drop]
    omega
  rw [← length] at beyond
  rw [rowsRung]
  show (Writer.fill n (Writer.rowsThenCount n front write _ _)).bind _ = _
  rw [Writer.rowsThenCount_fails rows stops inside beyond]
  rfl

theorem rowsRung_lays_iff (rows : Writer.Rows n first stride write row)
    (stops : Writer.RowsStop n first stride write) (start : front.length = first)
    (room : first + stride * rooms ≤ n) (beyond : n < first + stride * (rooms + 1))
    (more : rooms < cap)
    (after : ∀ field, count = some field → ∀ m, field.1 + (field.2 m).length ≤ n →
      first + stride * rooms ≤ field.1)
    (wrapped : ∀ offset bs, data (wrap offset bs) = bs) :
    Lays (Layout.rows rooms first stride row rows.whole) data
      (rowsRung n cap front write count wrap) items offset ↔ items.length - offset ≤ rooms := by
  constructor
  · rintro ⟨packet, built, _⟩
    by_contra many
    have most : stride * (rooms + 1) ≤ stride * min (items.length - offset) cap :=
      Nat.mul_le_mul_left stride (by omega)
    have panics : rowsRung n cap front write count wrap items offset = none :=
      rowsRung_panics rows stops start (Nat.le_of_add_right_le room)
        (beyond.trans_le (Nat.add_le_add_left most first))
    rw [panics] at built
    cases built
  · intro few
    exact rowsRung_lays rows start room after wrapped (by omega)

/-- A builder whose header says how many entries follow. -/
def headedRung (n cap : ℕ) (front : ℕ → Bytes) (write : α → Writer Unit)
    (wrap : ℕ → Bytes → π) : Rung α π := fun items offset =>
  rowsRung n cap (front (min (items.length - offset) cap)) (fun _ => write) none wrap items offset

section Headed

variable {header : ℕ → Bytes} {write : α → Writer Unit}

theorem headedRung_lays (rows : Writer.Rows n first stride (fun _ => write) row)
    (start : ∀ m, (header m).length = first) (room : first + stride * rooms ≤ n)
    (wrapped : ∀ offset bs, data (wrap offset bs) = bs)
    (enough : min (items.length - offset) cap = min (items.length - offset) rooms) :
    Lays (Layout.rows rooms first stride row rows.whole) data
      (headedRung n cap header write wrap) items offset :=
  rowsRung_lays rows (start _) room (by rintro _ ⟨⟩) wrapped enough

theorem headedRung_lays_iff (rows : Writer.Rows n first stride (fun _ => write) row)
    (stops : Writer.RowsStop n first stride fun _ => write)
    (start : ∀ m, (header m).length = first) (room : first + stride * rooms ≤ n)
    (beyond : n < first + stride * (rooms + 1)) (more : rooms < cap)
    (wrapped : ∀ offset bs, data (wrap offset bs) = bs) :
    Lays (Layout.rows rooms first stride row rows.whole) data
      (headedRung n cap header write wrap) items offset ↔ items.length - offset ≤ rooms :=
  rowsRung_lays_iff rows stops (start _) room beyond more (by rintro _ ⟨⟩) wrapped

end Headed

end Rungs

end Library
