import Garlemald.Library.Runs
import Garlemald.Library.Table
import Garlemald.Library.Utf8
import Mathlib.Data.List.Infix

/-!
The boot-time migration pass over the shared SQLite file. The engine is a
parameter: it executes one statement, and its ALTER TABLE either adds a column
that the table lacks or reports an error.
-/

namespace Garlemald.Migrations

open Library

/-- An ALTER TABLE .. ADD COLUMN statement. Its identifiers are folded to lower
case, as the engine compares them. -/
structure AddColumn where
  table : String
  column : String
  declaration : String
deriving DecidableEq

def AddColumn.target (c : AddColumn) : String × String := (c.table, c.column)

/-- The tables with their columns, and whatever else the file holds. -/
structure Data (ρ : Type) where
  tables : Table String (List (String × String))
  rest : ρ

variable {ρ σ : Type}

namespace Data

def columns (d : Data ρ) (table : String) : List (String × String) :=
  (d.tables.lookup table).getD []

def has (d : Data ρ) (c : AddColumn) : Bool :=
  (d.columns c.table).any fun column => column.1 = c.column

def add (d : Data ρ) (c : AddColumn) : Data ρ :=
  { d with tables :=
      d.tables.insert c.table (d.columns c.table ++ [(c.column, c.declaration)]) }

theorem columns_add_self (d : Data ρ) (c : AddColumn) :
    (d.add c).columns c.table = d.columns c.table ++ [(c.column, c.declaration)] := by
  simp [columns, add, AList.lookup_insert]

theorem columns_add_ne (d : Data ρ) {c : AddColumn} {table : String} (other : table ≠ c.table) :
    (d.add c).columns table = d.columns table := by
  simp [columns, add, AList.lookup_insert_ne other]

theorem has_add_self (d : Data ρ) (c : AddColumn) : (d.add c).has c = true := by
  simp [has, columns_add_self]

theorem has_add_ne (d : Data ρ) {c b : AddColumn} (distinct : c.target ≠ b.target) :
    (d.add c).has b = d.has b := by
  by_cases same : b.table = c.table
  · have other : c.column ≠ b.column := by
      intro equal
      apply distinct
      rw [AddColumn.target, AddColumn.target, same, equal]
    simp [has, same, columns_add_self, other]
  · rw [has, has, columns_add_ne d same]

theorem has_add_of_has {d : Data ρ} {b : AddColumn} (c : AddColumn) (present : d.has b = true) :
    (d.add c).has b = true := by
  by_cases same : c.target = b.target
  · obtain ⟨table, column⟩ := Prod.mk.inj same
    have self := d.has_add_self c
    rw [has, table, column] at self
    exact self
  · rw [has_add_ne d same]
    exact present

end Data

inductive Statement (σ : Type) where
  | addColumn (c : AddColumn)
  | other (sql : σ)

/-- True when the text of an error says that a column is already there. -/
def isAlreadySatisfied (e : Text) : Bool :=
  decide ("duplicate column name".toList <:+: e.map Char.toLower)

/-- The SQLite engine. A column is added once, only a column that exists is
reported as a duplicate, and no other statement of the scripts reports one. -/
structure Sqlite (ρ σ : Type) where
  alterTable : AddColumn → Data ρ → Except Text (Data ρ)
  execute : σ → Data ρ → Except Text (Data ρ)
  adds : ∀ c d d', alterTable c d = .ok d' → d.has c = false ∧ d' = d.add c
  duplicate : ∀ c d e, alterTable c d = .error e → isAlreadySatisfied e = true →
    d.has c = true
  other_error : ∀ sql d e, execute sql d = .error e → isAlreadySatisfied e = false

/-- A bundled script adds distinct columns, or has no ADD COLUMN statement at all. -/
inductive Script (σ : Type) where
  | alter (columns : List AddColumn) (distinct : (columns.map AddColumn.target).Nodup)
  | batch (sql : List σ)

def Script.columns : Script σ → List AddColumn
  | alter columns _ => columns
  | batch _ => []

def Script.statements : Script σ → List (Statement σ)
  | alter columns _ => columns.map .addColumn
  | batch sql => sql.map .other

structure Migration (σ : Type) where
  name : String
  script : Script σ

/-- The scripts in filename order. They come from one directory, so no name repeats. -/
structure Bundle (σ : Type) where
  migrations : List (Migration σ)
  names : (migrations.map Migration.name).Nodup

/-- The rows of `schema_migrations`, whose primary key is the name. -/
structure Tracking where
  names : List String
  distinct : names.Nodup

def Tracking.insert (t : Tracking) (name : String) : Except Text Tracking :=
  if h : name ∈ t.names then
    .error "UNIQUE constraint failed: schema_migrations.name".toList
  else
    .ok ⟨t.names.concat name, List.Nodup.concat h t.distinct⟩

structure Database (ρ : Type) where
  schemaMigrations : Option Tracking
  data : Data ρ

variable {db db' : Database ρ}

namespace Database

def createTracking (db : Database ρ) : Database ρ :=
  { db with schemaMigrations := some (db.schemaMigrations.getD ⟨[], List.nodup_nil⟩) }

def applied (db : Database ρ) : List String :=
  match db.schemaMigrations with
  | some t => t.names
  | none => []

def record (db : Database ρ) (name : String) : Except Text (Database ρ) :=
  match db.schemaMigrations with
  | some t =>
      match t.insert name with
      | .ok t' => .ok { db with schemaMigrations := some t' }
      | .error e => .error e
  | none => .error "no such table: schema_migrations".toList

theorem applied_nodup (db : Database ρ) : db.applied.Nodup := by
  rw [applied]
  cases db.schemaMigrations with
  | some t => exact t.distinct
  | none => exact List.nodup_nil

theorem createTracking_of_applied {db : Database ρ} {name : String} (h : name ∈ db.applied) :
    db.createTracking = db := by
  obtain ⟨schemaMigrations, data⟩ := db
  cases schemaMigrations with
  | some t => rfl
  | none => cases h

theorem record_ok {name : String} (h : db.record name = .ok db') :
    db'.applied = db.applied.concat name ∧ db'.data = db.data := by
  obtain ⟨schemaMigrations, data⟩ := db
  cases schemaMigrations with
  | none => cases h
  | some t =>
      by_cases present : name ∈ t.names
      · simp [record, Tracking.insert, present] at h
      · simp [record, Tracking.insert, present] at h
        subst h
        simp [applied]

end Database

structure Failure where
  context : Text
  cause : Text

section Pass

variable (S : Sqlite ρ σ)

def Sqlite.step : Statement σ → Data ρ → Except Text (Data ρ)
  | .addColumn c, d => S.alterTable c d
  | .other sql, d => S.execute sql d

/-- The statements in turn, up to the first that fails. What the earlier ones
did stays in the transaction. -/
def executeBatch : List (Statement σ) → Data ρ → Data ρ × Option Text
  | [], d => (d, none)
  | s :: rest, d =>
      match S.step s d with
      | .ok d' => executeBatch rest d'
      | .error e => (d, some e)

def turn (applied : List String) (db : Database ρ) (m : Migration σ) : Except Text (Database ρ) :=
  if m.name ∈ applied then .ok db
  else
    match executeBatch S m.script.statements db.data with
    | (data, none) => { db with data := data }.record m.name
    | (data, some e) =>
        if isAlreadySatisfied e then { db with data := data }.record m.name
        else .error e

/-- The whole pass is one transaction: an error leaves the file as the creation
of the tracking table left it. -/
def applyMigrations (bundled : List (Migration σ)) (db : Database ρ) :
    Database ρ × Except Failure Unit :=
  let db := db.createTracking
  match bundled.foldlM (turn S db.applied) db with
  | .ok db' => (db', .ok ())
  | .error e => (db, .error ⟨"applying migration batch".toList, e⟩)

/-- The database in which the effect of the statement is present: an ADD COLUMN
whose column exists has nothing left to do, any other statement runs. -/
def ensure : Statement σ → Data ρ → Except Text (Data ρ)
  | .addColumn c, d => if d.has c then .ok d else S.alterTable c d
  | .other sql, d => S.execute sql d

def ensureAll (statements : List (Statement σ)) (d : Data ρ) : Except Text (Data ρ) :=
  statements.foldlM (fun d s => ensure S s d) d

/-- A script that is run at its turn leaves the effect of every one of its statements. -/
def TakesEffect (applied : List String) (db : Database ρ) (m : Migration σ) : Prop :=
  m.name ∉ applied → ∀ db', turn S applied db m = .ok db' →
    ensureAll S m.script.statements db.data = .ok db'.data

/-- Whenever a column of the script exists at its turn, so do the columns after it. -/
def ColumnsInOrder (applied : List String) (db : Database ρ) (m : Migration σ) : Prop :=
  m.name ∉ applied →
    m.script.columns.Pairwise fun a b => db.data.has a = true → db.data.has b = true

def turn? (applied : List String) (db : Database ρ) (m : Migration σ) : Option (Database ρ) :=
  (turn S applied db m).toOption

structure FullEffect (bundled : List (Migration σ)) (db db' : Database ρ) : Prop where
  effects : EachStep (turn? S db.applied) (TakesEffect S db.applied) db.createTracking bundled
  recorded : ∀ m ∈ bundled, db'.applied.count m.name = 1
  again : applyMigrations S bundled db' = (db', .ok ())

/-- What happens to the file: a server boots with a release that bundles some of
the scripts, dies within the pass, or anything else changes the data. -/
inductive Event (ρ σ : Type) where
  | boot (release : Migration σ → Bool)
  | interrupted
  | outside (data : Data ρ)

variable (bundle : Bundle σ)

def Bundle.released (release : Migration σ → Bool) : List (Migration σ) :=
  bundle.migrations.filter release

def step (db : Database ρ) : Event ρ σ → Option (Database ρ)
  | .boot release => some (applyMigrations S (bundle.released release) db).1
  | .interrupted => some db.createTracking
  | .outside data => some { db with data := data }

def BootsInFull (db : Database ρ) : Event ρ σ → Prop
  | .boot release => ∀ db', applyMigrations S (bundle.released release) db = (db', .ok ()) →
      FullEffect S (bundle.released release) db db'
  | _ => True

def BootsInOrder (db : Database ρ) : Event ρ σ → Prop
  | .boot release => ∀ db', applyMigrations S (bundle.released release) db = (db', .ok ()) →
      EachStep (turn? S db.applied) (ColumnsInOrder db.applied) db.createTracking
        (bundle.released release)
  | _ => True

end Pass

def initial (data : Data ρ) : Database ρ := ⟨none, data⟩

@[simp] theorem applied_createTracking (db : Database ρ) :
    db.createTracking.applied = db.applied := by
  obtain ⟨schemaMigrations, data⟩ := db
  cases schemaMigrations <;> rfl

section Effects

variable (S : Sqlite ρ σ)

theorem ensureAll_cons (s : Statement σ) (rest : List (Statement σ)) (d : Data ρ) :
    ensureAll S (s :: rest) d = (ensure S s d).bind (ensureAll S rest) := rfl

theorem ensure_present {d : Data ρ} {c : AddColumn} (present : d.has c = true) :
    ensure S (.addColumn c) d = .ok d := by
  simp [ensure, present]

theorem ensure_addColumn_ok {d d' : Data ρ} {c : AddColumn}
    (h : ensure S (.addColumn c) d = .ok d') :
    d'.has c = true ∧ ∀ b, d.has b = true → d'.has b = true := by
  by_cases present : d.has c = true
  · rw [ensure_present S present] at h
    cases h
    exact ⟨present, fun b kept => kept⟩
  · simp only [ensure, present] at h
    obtain ⟨_, added⟩ := S.adds c d d' h
    rw [added]
    exact ⟨d.has_add_self c, fun b kept => Data.has_add_of_has c kept⟩

variable {columns : List AddColumn}

theorem ensureAll_columns {d d' : Data ρ} (h : ensureAll S (columns.map .addColumn) d = .ok d') :
    (∀ b ∈ columns, d'.has b = true) ∧ ∀ b, d.has b = true → d'.has b = true := by
  induction columns generalizing d with
  | nil =>
      cases h
      exact ⟨fun b inside => absurd inside List.not_mem_nil, fun b kept => kept⟩
  | cons c columns ih =>
      rw [List.map_cons, ensureAll_cons] at h
      cases first : ensure S (.addColumn c) d with
      | error e =>
          rw [first] at h
          cases h
      | ok mid =>
          rw [first] at h
          obtain ⟨now, kept⟩ := ensure_addColumn_ok S first
          obtain ⟨later, keptLater⟩ := ih h
          refine ⟨fun b inside => ?_, fun b present => keptLater b (kept b present)⟩
          obtain rfl | inside := List.mem_cons.mp inside
          · exact keptLater b now
          · exact later b inside

theorem ensureAll_nothing_to_do {d : Data ρ} (present : ∀ b ∈ columns, d.has b = true) :
    ensureAll S (columns.map .addColumn) d = .ok d := by
  induction columns with
  | nil => rfl
  | cons c columns ih =>
      rw [List.map_cons, ensureAll_cons, ensure_present S (present c List.mem_cons_self)]
      exact ih fun b inside => present b (List.mem_cons_of_mem c inside)

/-- The statements after a tolerated error are skipped: a batch of ADD COLUMN
statements that fails on an existing column at most takes effect as a whole
exactly when every column that exists comes before existing ones only. -/
theorem alter_takes_effect_iff {d d' : Data ρ} {failed : Option Text}
    (distinct : (columns.map AddColumn.target).Nodup)
    (outcome : executeBatch S (columns.map .addColumn) d = (d', failed))
    (tolerated : ∀ e, failed = some e → isAlreadySatisfied e = true) :
    ensureAll S (columns.map .addColumn) d = .ok d' ↔
      columns.Pairwise fun a b => d.has a = true → d.has b = true := by
  induction columns generalizing d with
  | nil =>
      cases outcome
      exact iff_of_true rfl List.Pairwise.nil
  | cons c columns ih =>
      rw [List.map_cons, List.nodup_cons] at distinct
      obtain ⟨fresh, distinct⟩ := distinct
      rw [List.map_cons, executeBatch] at outcome
      rw [List.map_cons, ensureAll_cons, List.pairwise_cons]
      cases first : S.step (.addColumn c) d with
      | ok mid =>
          rw [first] at outcome
          obtain ⟨absent, added⟩ := S.adds c d mid first
          have runs : ensure S (.addColumn c) d = .ok mid := by
            rw [ensure, absent]
            exact first
          have same : ∀ b ∈ columns, mid.has b = d.has b := by
            intro b inside
            rw [added]
            apply Data.has_add_ne
            intro equal
            exact fresh (equal ▸ List.mem_map_of_mem inside)
          rw [runs]
          show ensureAll S (columns.map .addColumn) mid = .ok d' ↔ _
          rw [ih distinct outcome]
          have order : (columns.Pairwise fun a b => mid.has a = true → mid.has b = true) ↔
              columns.Pairwise fun a b => d.has a = true → d.has b = true := by
            apply List.Pairwise.iff_of_mem
            intro a b ha hb
            rw [same a ha, same b hb]
          rw [order]
          simp [absent]
      | error e =>
          rw [first] at outcome
          obtain ⟨rfl, rfl⟩ := Prod.mk.inj outcome
          have present : d.has c = true := S.duplicate c d e first (tolerated e rfl)
          rw [ensure_present S present]
          show ensureAll S (columns.map .addColumn) d = .ok d ↔ _
          constructor
          · intro whole
            obtain ⟨all, _⟩ := ensureAll_columns S whole
            refine ⟨fun b inside _ => all b inside, ?_⟩
            apply List.pairwise_of_forall_mem_list
            intro a _ b inside _
            exact all b inside
          · intro order
            obtain ⟨rest, _⟩ := order
            exact ensureAll_nothing_to_do S fun b inside => rest b inside present

theorem batch_takes_effect {sql : List σ} {d d' : Data ρ} {failed : Option Text}
    (outcome : executeBatch S (sql.map .other) d = (d', failed))
    (tolerated : ∀ e, failed = some e → isAlreadySatisfied e = true) :
    ensureAll S (sql.map .other) d = .ok d' := by
  induction sql generalizing d with
  | nil =>
      cases outcome
      rfl
  | cons s sql ih =>
      rw [List.map_cons, executeBatch] at outcome
      rw [List.map_cons, ensureAll_cons]
      cases first : S.step (.other s) d with
      | ok mid =>
          rw [first] at outcome
          have runs : ensure S (.other s) d = .ok mid := first
          rw [runs]
          exact ih outcome
      | error e =>
          rw [first] at outcome
          obtain ⟨rfl, rfl⟩ := Prod.mk.inj outcome
          have loud := S.other_error s d e first
          rw [tolerated e rfl] at loud
          cases loud

variable {applied : List String}

theorem turn_ok {m : Migration σ} (taken : turn S applied db m = .ok db') :
    (m.name ∈ applied ∧ db' = db) ∨
      (m.name ∉ applied ∧ db'.applied = db.applied.concat m.name ∧
        ∃ failed, executeBatch S m.script.statements db.data = (db'.data, failed) ∧
          ∀ e, failed = some e → isAlreadySatisfied e = true) := by
  by_cases known : m.name ∈ applied
  · rw [turn, if_pos known] at taken
    cases taken
    exact Or.inl ⟨known, rfl⟩
  · refine Or.inr ⟨known, ?_⟩
    rw [turn, if_neg known] at taken
    obtain ⟨⟨data, failed⟩, outcome⟩ : ∃ r, executeBatch S m.script.statements db.data = r :=
      ⟨_, rfl⟩
    cases failed with
    | none =>
        rw [outcome] at taken
        obtain ⟨names, same⟩ := Database.record_ok taken
        refine ⟨names, none, ?_, fun e absurd => nomatch absurd⟩
        rw [same]
        exact outcome
    | some e =>
        rw [outcome] at taken
        by_cases satisfied : isAlreadySatisfied e = true
        · simp only [satisfied, if_true] at taken
          obtain ⟨names, same⟩ := Database.record_ok taken
          refine ⟨names, some e, ?_, fun e' equal => ?_⟩
          · rw [same]
            exact outcome
          · cases equal
            exact satisfied
        · simp only [satisfied] at taken
          cases taken

theorem turn_of_turn? {m : Migration σ} (taken : turn? S applied db m = some db') :
    turn S applied db m = .ok db' := by
  rw [turn?] at taken
  cases outcome : turn S applied db m with
  | ok last =>
      rw [outcome] at taken
      cases taken
      rfl
  | error e =>
      rw [outcome] at taken
      cases taken

theorem takesEffect_iff {m : Migration σ} (taken : turn S applied db m = .ok db') :
    TakesEffect S applied db m ↔ ColumnsInOrder applied db m := by
  obtain ⟨known, _⟩ | ⟨new, _, failed, outcome, tolerated⟩ := turn_ok S taken
  · exact iff_of_true (fun new => absurd known new) fun new => absurd known new
  · have whole : TakesEffect S applied db m ↔
        ensureAll S m.script.statements db.data = .ok db'.data := by
      constructor
      · intro effect
        exact effect new db' taken
      · intro effect _ other otherTaken
        rw [taken] at otherTaken
        cases otherTaken
        exact effect
    have order : ColumnsInOrder applied db m ↔ m.script.columns.Pairwise
        fun a b => db.data.has a = true → db.data.has b = true :=
      ⟨fun ordered => ordered new, fun ordered _ => ordered⟩
    rw [whole, order]
    obtain ⟨name, script⟩ := m
    cases script with
    | alter columns distinct => exact alter_takes_effect_iff S distinct outcome tolerated
    | batch sql =>
        exact iff_of_true (batch_takes_effect S outcome tolerated) List.Pairwise.nil

variable {bundled : List (Migration σ)}

theorem pass_applied (passed : bundled.foldlM (turn S applied) db = .ok db') :
    db'.applied =
      db.applied ++ (bundled.map Migration.name).filter fun name => name ∉ applied := by
  induction bundled generalizing db with
  | nil =>
      cases passed
      simp
  | cons m bundled ih =>
      rw [List.foldlM_cons] at passed
      cases first : turn S applied db m with
      | error e =>
          rw [first] at passed
          cases passed
      | ok mid =>
          rw [first] at passed
          rw [ih passed]
          obtain ⟨known, rfl⟩ | ⟨new, names, _⟩ := turn_ok S first
          · simp [known]
          · simp [new, names]

theorem pass_known (db : Database ρ) (known : ∀ m ∈ bundled, m.name ∈ applied) :
    bundled.foldlM (turn S applied) db = .ok db := by
  induction bundled with
  | nil => rfl
  | cons m bundled ih =>
      have skipped : turn S applied db m = .ok db := by
        rw [turn, if_pos (known m List.mem_cons_self)]
      rw [List.foldlM_cons, skipped]
      exact ih fun n inside => known n (List.mem_cons_of_mem m inside)

theorem applyMigrations_ok (passed : applyMigrations S bundled db = (db', .ok ())) :
    bundled.foldlM (turn S db.applied) db.createTracking = .ok db' := by
  rw [applyMigrations, applied_createTracking] at passed
  cases outcome : bundled.foldlM (turn S db.applied) db.createTracking with
  | ok last =>
      simp only [outcome] at passed
      cases passed
      rfl
  | error e =>
      simp only [outcome] at passed
      cases passed

theorem recorded_after (passed : applyMigrations S bundled db = (db', .ok ())) :
    ∀ m ∈ bundled, m.name ∈ db'.applied := by
  intro m inside
  rw [pass_applied S (applyMigrations_ok S passed), applied_createTracking]
  by_cases known : m.name ∈ db.applied
  · exact List.mem_append_left _ known
  · apply List.mem_append_right
    simp only [List.mem_filter, known, not_false_eq_true, decide_true, and_true]
    exact List.mem_map_of_mem inside

theorem recorded_once (passed : applyMigrations S bundled db = (db', .ok ())) :
    ∀ m ∈ bundled, db'.applied.count m.name = 1 := by
  intro m inside
  exact List.count_eq_one_of_mem db'.applied_nodup (recorded_after S passed m inside)

theorem again_unchanged (passed : applyMigrations S bundled db = (db', .ok ())) :
    applyMigrations S bundled db' = (db', .ok ()) := by
  have known := recorded_after S passed
  have tracked : db'.createTracking = db' := by
    cases bundled with
    | nil =>
        have same := applyMigrations_ok S passed
        cases same
        rfl
    | cons m bundled =>
        exact Database.createTracking_of_applied (known m List.mem_cons_self)
  rw [applyMigrations]
  simp only [tracked, pass_known S db' known]

theorem bootsInFull_iff (bundle : Bundle σ) {db : Database ρ} {e : Event ρ σ} :
    BootsInFull S bundle db e ↔ BootsInOrder S bundle db e := by
  cases e with
  | interrupted => exact Iff.rfl
  | outside data => exact Iff.rfl
  | boot release =>
      apply forall_congr'
      intro db'
      apply imp_congr_right
      intro passed
      have turns : EachStep (turn? S db.applied) (TakesEffect S db.applied) db.createTracking
            (bundle.released release) ↔
          EachStep (turn? S db.applied) (ColumnsInOrder db.applied) db.createTracking
            (bundle.released release) := by
        apply EachStep.congr
        intro s m s' taken
        exact takesEffect_iff S (turn_of_turn? S taken)
      rw [← turns]
      constructor
      · intro full
        exact full.effects
      · intro effects
        exact ⟨effects, recorded_once S passed, again_unchanged S passed⟩

/-- In every run of boots, crashes and changes from outside, from a file in
which no script is recorded: every boot that returns Ok has brought about every
statement of every script exactly when no script was run with a column in place
that comes before a missing one. -/
theorem migrations_take_effect_iff (bundle : Bundle σ) (data : Data ρ)
    (es : List (Event ρ σ)) :
    EachStep (step S bundle) (BootsInFull S bundle) (initial data) es ↔
      EachStep (step S bundle) (BootsInOrder S bundle) (initial data) es :=
  EachStep.congr fun _ _ _ _ => bootsInFull_iff S bundle

end Effects

theorem lower_duplicate_column : ("duplicate column name: ".toList).map Char.toLower =
    "duplicate column name".toList ++ ": ".toList := by decide

theorem duplicate_column_satisfied (column : Text) :
    isAlreadySatisfied ("duplicate column name: ".toList ++ column) = true := by
  apply decide_eq_true
  rw [List.map_append, lower_duplicate_column]
  exact ⟨[], _, by rw [List.nil_append, List.append_assoc]⟩

theorem no_such_table_not_satisfied : isAlreadySatisfied "no such table".toList = false := by
  decide

/-- An engine for files of which only the columns matter. -/
def columnsOnly : Sqlite Unit Empty where
  alterTable c d :=
    match d.tables.lookup c.table with
    | none => .error "no such table".toList
    | some _ =>
        if d.has c then .error ("duplicate column name: ".toList ++ c.column.toList)
        else .ok (d.add c)
  execute sql _ := nomatch sql
  adds c d d' ok := by
    split at ok
    · cases ok
    · split at ok
      · cases ok
      · rename_i absent
        cases ok
        exact ⟨Bool.eq_false_iff.mpr absent, rfl⟩
  duplicate c d e failed satisfied := by
    split at failed
    · obtain rfl := Except.error.inj failed
      rw [no_such_table_not_satisfied] at satisfied
      cases satisfied
    · split at failed
      · rename_i present
        exact present
      · cases failed
  other_error sql := nomatch sql

def snpcNickname : AddColumn := ⟨"characters", "snpc_nickname", "TEXT NOT NULL DEFAULT ''"⟩
def snpcSkin : AddColumn := ⟨"characters", "snpc_skin", "INTEGER NOT NULL DEFAULT 0"⟩
def snpcPersonality : AddColumn :=
  ⟨"characters", "snpc_personality", "INTEGER NOT NULL DEFAULT 0"⟩
def snpcCoordinate : AddColumn := ⟨"characters", "snpc_coordinate", "INTEGER NOT NULL DEFAULT 0"⟩

def snpcMigration : Migration Empty where
  name := "051_characters_snpc.sql"
  script := .alter [snpcNickname, snpcSkin, snpcPersonality, snpcCoordinate] (by decide)

def snpcBundle : Bundle Empty := ⟨[snpcMigration], by decide⟩

/-- The characters table with the first of the four columns already added. -/
def nicknameAdded : Data Unit where
  tables := AList.insert "characters"
    [("id", "INTEGER PRIMARY KEY AUTOINCREMENT"),
      ("snpc_nickname", "TEXT NOT NULL DEFAULT ''")] ∅
  rest := ()

theorem snpcMigration_batch :
    executeBatch columnsOnly snpcMigration.script.statements nicknameAdded =
      (nicknameAdded, some ("duplicate column name: ".toList ++ "snpc_nickname".toList)) := by
  have failed : columnsOnly.step (.addColumn snpcNickname) nicknameAdded =
      .error ("duplicate column name: ".toList ++ "snpc_nickname".toList) := rfl
  rw [snpcMigration]
  simp only [Script.statements, List.map_cons, executeBatch, failed]

def snpcRecorded : Database Unit :=
  ⟨some ⟨["051_characters_snpc.sql"], List.nodup_singleton _⟩, nicknameAdded⟩

theorem snpcMigration_turn :
    turn columnsOnly [] (initial nicknameAdded).createTracking snpcMigration =
      .ok snpcRecorded := by
  have batch := snpcMigration_batch
  rw [turn, if_neg List.not_mem_nil]
  simp only [initial, Database.createTracking, batch, duplicate_column_satisfied, if_true]
  rfl

theorem snpcMigration_recorded :
    applyMigrations columnsOnly (snpcBundle.released fun _ => true) (initial nicknameAdded) =
      (snpcRecorded, .ok ()) := by
  have bundled : snpcBundle.released (fun _ => true) = [snpcMigration] := rfl
  have nothing : (initial nicknameAdded).applied = [] := rfl
  rw [applyMigrations, bundled, applied_createTracking, nothing, List.foldlM_cons,
    snpcMigration_turn]
  rfl

/-- The boot succeeds and records the script, but three of its columns stay missing. -/
theorem nicknameAdded_incomplete : ¬ EachStep (step columnsOnly snpcBundle)
    (BootsInFull columnsOnly snpcBundle) (initial nicknameAdded) [.boot fun _ => true] := by
  intro h
  obtain ⟨full, _⟩ := h _ rfl
  obtain ⟨effects, _, _⟩ := full _ snpcMigration_recorded
  have taken : turn? columnsOnly [] (initial nicknameAdded).createTracking snpcMigration =
      some snpcRecorded := by
    rw [turn?, snpcMigration_turn]
    rfl
  obtain ⟨effect, _⟩ := effects _ taken
  have whole := effect List.not_mem_nil _ snpcMigration_turn
  obtain ⟨present, _⟩ := ensureAll_columns columnsOnly whole
  have skin : nicknameAdded.has snpcSkin = true := present snpcSkin (by simp)
  exact absurd skin (by decide)

end Garlemald.Migrations
