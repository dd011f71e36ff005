import Mathlib.Data.List.Forall2
import Crosswalk.Proofs.Source.Headings
import Crosswalk.Source.Worksheet

/-!
# What comes out of tables

A delimited file and a worksheet are read record by record.  Every record that is not blank has an
element, and so has every failure to read one, in the order of the table; behind a failure that
ends the reading nothing comes.  An element holds two fields of its record, or it says where the
record stands that is too short for it.

* `TableEntry`, `TableEntry.ComesTo` — what a table holds, and **the element that it comes to**.
* `Delimited.IsHeard` — the outcomes up to the first one that nothing comes behind.
* `Delimited.items_account`, `Worksheet.items_account` — **one element for each entry**, by
  induction on what the table holds.
* **`elements_account`** — the same for all that a consumer collects, with the headings in front.
-/

namespace Crosswalk

/-! ## Entries and their elements -/

/-- **What a table holds**: a record at a place, or a failure where a record should be. -/
inductive TableEntry where
  | record (place : String) (fields : List String)
  | failure (problem : SourceProblem)
  deriving DecidableEq, Repr

/-- **The element that an entry comes to.** -/
inductive TableEntry.ComesTo (source : String) (columns : Columns) :
    TableEntry → Item → Prop where
  /-- A record that is long enough comes to the fields in the two columns. -/
  | pair {place : String} {fields : List String} {key value : String}
      (hlength : max columns.key columns.value < fields.length)
      (hkey : fields[columns.key]? = some key) (hvalue : fields[columns.value]? = some value) :
      ComesTo source columns (.record place fields) (.ok ⟨key, value⟩)
  /-- A record that is too short comes to a failure that says where it stands. -/
  | short {place : String} {fields : List String}
      (hlength : fields.length ≤ max columns.key columns.value) :
      ComesTo source columns (.record place fields) (.error (.source
        (.shortRecord place fields.length (max columns.key columns.value)) (some source)))
  /-- A failure comes to itself. -/
  | failure (problem : SourceProblem) :
      ComesTo source columns (.failure problem) (.error (.source problem (some source)))

/-- **Elements that account for the entries of a table**: one for each, in their order. -/
abbrev Accounts (source : String) (columns : Columns) (entries : List TableEntry)
    (items : List Item) : Prop :=
  List.Forall₂ (TableEntry.ComesTo source columns) entries items

lemma comesTo_pairOf (source place : String) (columns : Columns) (record : List String) :
    (TableEntry.record place record).ComesTo source columns
      (pairOf source place columns record) := by
  by_cases hlength : max columns.key columns.value < record.length
  · obtain ⟨hkey, hvalue⟩ := max_lt_iff.1 hlength
    rw [pairOf, List.getElem?_eq_getElem hkey, List.getElem?_eq_getElem hvalue]
    exact .pair hlength (List.getElem?_eq_getElem hkey) (List.getElem?_eq_getElem hvalue)
  · rw [Nat.not_lt] at hlength
    have hpair : pairOf source place columns record = .error (.source
        (.shortRecord place record.length (max columns.key columns.value)) (some source)) := by
      rw [pairOf]
      -- one of the two columns is the greater one, and that field is missing
      rcases le_max_iff.1 hlength with hkey | hvalue
      · rw [List.getElem?_eq_none hkey]
      · rw [List.getElem?_eq_none hvalue]
        cases record[columns.key]? <;> rfl
    rw [hpair]
    exact .short hlength

/-! ## Delimited files -/

namespace Delimited

/-- The entry of an outcome. -/
def Outcome.entry : Outcome → TableEntry
  | record n fields => .record ("line " ++ toString n) fields
  | longField n => .failure (.longField n)
  | notText n => .failure (.notText n)
  | unread cause => .failure (.readFailed cause)

/-- The entries of outcomes; blank records have none. -/
def entries (outcomes : List Outcome) : List TableEntry :=
  (outcomes.filter fun o => !o.isBlank).map Outcome.entry

/-- **What is heard of some outcomes**: all up to and including the first one that nothing comes
behind. -/
structure IsHeard (heard outcomes : List Outcome) : Prop where
  fromFront : heard <+: outcomes
  goesOn : ∀ o ∈ heard.dropLast, o.isLast = false
  ends : heard = outcomes ∨ ∃ o ∈ heard.getLast?, o.isLast = true

section Heard

variable {source : String} {columns : Columns} {o : Outcome} {heard outcomes : List Outcome}

lemma isHeard_last (h : o.isLast = true) (outcomes : List Outcome) : IsHeard [o] (o :: outcomes) :=
  ⟨⟨outcomes, rfl⟩, by simp, Or.inr ⟨o, rfl, h⟩⟩

lemma IsHeard.cons (ho : o.isLast = false) (h : IsHeard heard outcomes) :
    IsHeard (o :: heard) (o :: outcomes) := by
  obtain ⟨hfront, hgoes, hends⟩ := h
  refine ⟨List.cons_prefix_cons.2 ⟨rfl, hfront⟩, ?_, ?_⟩
  · cases heard with
    | nil => simp
    | cons first rest =>
        rw [List.dropLast_cons_cons]
        exact List.forall_mem_cons.2 ⟨ho, hgoes⟩
  · rcases hends with rfl | ⟨last, hlast, hisLast⟩
    · exact Or.inl rfl
    · exact Or.inr ⟨last, List.mem_getLast?_cons hlast, hisLast⟩

/-- An outcome comes to the element of its entry; a blank record to none. -/
lemma comesTo_itemOf (source : String) (columns : Columns) (h : o.isBlank = false) :
    ∃ item, itemOf source columns o = some item ∧ o.entry.ComesTo source columns item := by
  cases o with
  | record n fields =>
      cases fields with
      | nil => cases h
      | cons first rest => exact ⟨_, rfl, comesTo_pairOf source _ columns (first :: rest)⟩
  | longField n => exact ⟨_, rfl, .failure _⟩
  | notText n => exact ⟨_, rfl, .failure _⟩
  | unread cause => exact ⟨_, rfl, .failure _⟩

/-- The elements of an outcome and of those behind it. -/
lemma accounts_cons {items : List Item} (h : Accounts source columns (entries outcomes) items) :
    Accounts source columns (entries (o :: outcomes))
      ((itemOf source columns o).toList ++ items) := by
  unfold entries at h ⊢
  cases hblank : o.isBlank with
  | true =>
      rw [List.filter_cons_of_neg (by simp [hblank]), itemOf_eq_none_iff.2 hblank,
        Option.toList_none, List.nil_append]
      exact h
  | false =>
      obtain ⟨item, hitem, hcomes⟩ := comesTo_itemOf source columns hblank
      rw [List.filter_cons_of_pos (by simp [hblank]), hitem]
      exact .cons hcomes h

/-- **Elements that account for outcomes**: one for each entry of what is heard of them. -/
def Accounted (source : String) (columns : Columns) (outcomes : List Outcome) (items : List Item) :
    Prop :=
  ∃ heard, IsHeard heard outcomes ∧ Accounts source columns (entries heard) items

/-- **One element for each entry of what is heard.** -/
lemma items_account (source : String) (columns : Columns) (outcomes : List Outcome) :
    Accounted source columns outcomes (items source columns outcomes) := by
  induction outcomes with
  | nil => exact ⟨[], ⟨List.prefix_rfl, by simp, Or.inl rfl⟩, .nil⟩
  | cons o outcomes ih =>
      obtain ⟨heard, hheard, haccounts⟩ := ih
      rw [items]
      cases hlast : o.isLast with
      | true => exact ⟨[o], isHeard_last hlast outcomes, accounts_cons .nil⟩
      | false => exact ⟨o :: heard, hheard.cons hlast, accounts_cons haccounts⟩

end Heard

/-- **What a stream over a delimited file is opened over**: the outcomes behind the headings. -/
lemma read_eq_ok {fs : Files} {file : FileSource} {delimiter : Char} {hasHeadings : Bool}
    {key value : String} {s : Stream}
    (h : (read fs file delimiter hasHeadings key value).result = .ok s) :
    ∃ place bytes names columns, file.opened fs = .ok (place, bytes) ∧
      (hasHeadings = true → takeHeadings file.name (recordsOfBytes delimiter bytes)
        = .ok (names, (recordsOfBytes delimiter bytes).drop 1)) ∧
      Columns.resolve file.name key value (if hasHeadings then some names else none)
        = .ok columns ∧
      s = .ofItems file.name (items file.name columns
        ((recordsOfBytes delimiter bytes).drop (if hasHeadings then 1 else 0))) := by
  have hbehind : ∀ {outcomes rest : List Outcome} {names : List String},
      takeHeadings file.name outcomes = .ok (names, rest) → rest = outcomes.drop 1 := by
    intro outcomes rest names htake
    cases outcomes with
    | nil =>
        cases htake
        rfl
    | cons first others => cases first <;> cases htake; rfl
  unfold read at h
  rw [Traced.result_bind, Traced.result_of] at h
  obtain ⟨⟨place, bytes⟩, hopened, h⟩ := bind_eq_ok.1 h
  cases hasHeadings with
  | false =>
      simp only [Bool.false_eq_true, if_false, Traced.result_bind, Traced.result_of,
        Traced.result_pure, ok_bind] at h
      obtain ⟨columns, hcolumns, hs⟩ := bind_eq_ok.1 h
      cases hs
      exact ⟨place, bytes, [], columns, hopened, nofun, hcolumns, rfl⟩
  | true =>
      simp only [if_true, Traced.result_bind, Traced.result_of, Traced.result_pure, ok_bind] at h
      obtain ⟨⟨names, rest⟩, htake, h⟩ := bind_eq_ok.1 h
      obtain ⟨columns, hcolumns, hs⟩ := bind_eq_ok.1 h
      cases hs
      obtain rfl := hbehind htake
      exact ⟨place, bytes, names, columns, hopened, fun _ => htake, hcolumns, rfl⟩

end Delimited

/-! ## Worksheets -/

namespace Worksheet

/-- The texts of the cells of a row. -/
def recordOf (row : List Cell) : List String := row.map Cell.toText

/-- The entries of rows with their numbers; rows without any text have none. -/
def entries (rows : List (List Cell × Nat)) : List TableEntry :=
  (rows.filter fun r => !(recordOf r.1).all String.isEmpty).map fun r =>
    .record ("row " ++ toString r.2) (recordOf r.1)

/-- **One element for each entry of the rows**, which are counted whether they have one or not. -/
lemma items_account (source : String) (columns : Columns) (n : Nat) (rows : List (List Cell)) :
    Accounts source columns (entries (rows.zipIdx (n + 1))) (items source columns n rows) := by
  induction rows generalizing n with
  | nil => exact .nil
  | cons row rows ih =>
      have hrest := ih (n + 1)
      rw [items, List.zipIdx_cons]
      unfold entries at hrest ⊢
      cases hblank : (row.map Cell.toText).all String.isEmpty with
      | true =>
          rw [List.filter_cons_of_neg (by simp only [recordOf, hblank]; decide)]
          exact hrest
      | false =>
          rw [List.filter_cons_of_pos (by simp only [recordOf, hblank]; decide)]
          exact .cons (comesTo_pairOf source _ columns (recordOf row)) hrest

/-- **What a stream over a sheet is opened over**: its rows behind the headings, with their
numbers. -/
lemma read_eq_ok {fs : Files} {file : FileSource} {sheet : String} {hasHeadings : Bool}
    {key value : String} {s : Stream}
    (h : (read fs file sheet hasHeadings key value).result = .ok s) :
    ∃ place sheets found columns, file.location fs = .ok place ∧
      sheetsOf fs place = .ok sheets ∧
      sheets.find? (·.name = sheet) = some found ∧
      Columns.resolve file.name key value
        (if hasHeadings then some (recordOf (found.rows.headD [])) else none) = .ok columns ∧
      s = .ofItems file.name (if hasHeadings then items file.name columns 1 (found.rows.drop 1)
        else items file.name columns 0 found.rows) := by
  unfold read at h
  simp only [Traced.result_bind, Traced.result_of] at h
  obtain ⟨place, hplace, h⟩ := bind_eq_ok.1 h
  obtain ⟨sheets, hsheets, h⟩ := bind_eq_ok.1 h
  rw [mapError_eq_ok] at hplace hsheets
  split at h
  · next found hfound =>
    simp only [Traced.result_bind, Traced.result_of, Traced.result_pure, ok_bind] at h
    obtain ⟨columns, hcolumns, hs⟩ := bind_eq_ok.1 h
    cases hs
    exact ⟨place, sheets, found, columns, hplace, hsheets, hfound, hcolumns, rfl⟩
  · cases h

/-- The rows behind the headings have the numbers that they have in the sheet. -/
lemma items_behind_headings (source : String) (columns : Columns) (hasHeadings : Bool)
    (rows : List (List Cell)) :
    Accounts source columns (entries ((rows.zipIdx 1).drop (if hasHeadings then 1 else 0)))
      (if hasHeadings then items source columns 1 (rows.drop 1)
        else items source columns 0 rows) := by
  cases hasHeadings with
  | false => exact items_account source columns 0 rows
  | true =>
      have hrows : (rows.zipIdx 1).drop 1 = (rows.drop 1).zipIdx 2 := by cases rows <;> rfl
      rw [if_pos rfl, if_pos rfl, hrows]
      exact items_account source columns 1 (rows.drop 1)

end Worksheet

/-! ## What a consumer collects -/

/-- **Everything that comes out of a table accounts for what the table holds**: whatever a reader
of delimited records brings, the elements that a consumer collects are one for each entry of what
is heard of it; and a delimited file or a sheet that can be opened brings what stands behind its
headings, the rows of a sheet with the numbers that they have in it. -/
theorem elements_account :
    (∀ source columns outcomes, Delimited.Accounted source columns outcomes
      (Stream.ofItems source (Delimited.items source columns outcomes)).collect.1) ∧
    (∀ fs file delimiter hasHeadings key value s,
      (Delimited.read fs file delimiter hasHeadings key value).result = .ok s →
        ∃ place bytes names columns, file.opened fs = .ok (place, bytes) ∧
          (hasHeadings = true →
            Delimited.takeHeadings file.name (Delimited.recordsOfBytes delimiter bytes)
            = .ok (names, (Delimited.recordsOfBytes delimiter bytes).drop 1)) ∧
          Columns.resolve file.name key value (if hasHeadings then some names else none)
            = .ok columns ∧
          Delimited.Accounted file.name columns
            ((Delimited.recordsOfBytes delimiter bytes).drop (if hasHeadings then 1 else 0))
            s.collect.1) ∧
    ∀ fs file sheet hasHeadings key value s,
      (Worksheet.read fs file sheet hasHeadings key value).result = .ok s →
        ∃ place sheets found columns, file.location fs = .ok place ∧
          Worksheet.sheetsOf fs place = .ok sheets ∧
          sheets.find? (·.name = sheet) = some found ∧
          Columns.resolve file.name key value
            (if hasHeadings then some (Worksheet.recordOf (found.rows.headD [])) else none)
            = .ok columns ∧
          Accounts file.name columns
            (Worksheet.entries ((found.rows.zipIdx 1).drop (if hasHeadings then 1 else 0)))
            s.collect.1 := by
  refine ⟨fun source columns outcomes => ?_,
    fun fs file delimiter hasHeadings key value s h => ?_,
    fun fs file sheet hasHeadings key value s h => ?_⟩
  · rw [Stream.collect_ofItems]
    exact Delimited.items_account source columns outcomes
  · obtain ⟨place, bytes, names, columns, hopened, hnames, hcolumns, rfl⟩ :=
      Delimited.read_eq_ok h
    rw [Stream.collect_ofItems]
    exact ⟨place, bytes, names, columns, hopened, hnames, hcolumns,
      Delimited.items_account _ _ _⟩
  · obtain ⟨place, sheets, found, columns, hplace, hsheets, hfound, hcolumns, rfl⟩ :=
      Worksheet.read_eq_ok h
    rw [Stream.collect_ofItems]
    exact ⟨place, sheets, found, columns, hplace, hsheets, hfound, hcolumns,
      Worksheet.items_behind_headings _ _ _ _⟩

/-- A sheet of stocks, with headings, a blank row and a row that is too short. -/
def stockSheet : Sheet :=
  ⟨"stock",
    [[.text "name", .text "count"], [.empty, .empty], [.text "tea", .int 2], [.text "milk"]]⟩

/-- A file of prices with a blank line and a short record, and a workbook of stocks. -/
def stockFiles : Files := .ofList
  [("prices.csv", .file (.bytes "name,price\n\ntea\nmilk,1\n".toUTF8.data.toList)),
    ("stock.xlsx", .file (.workbook [stockSheet]))]

/-- The workbook of stocks. -/
def stockFile : FileSource := ⟨2, "stock", "stock.xlsx", "."⟩

/-- The elements of both tables account for what stands behind the headings; the short ones tell
the line and the row that they are in. -/
theorem elements_account_stock :
    ∃ prices stock pricesColumns stockColumns,
      (Delimited.read stockFiles Delimited.pricesFile ',' true "0" "1").result = .ok prices ∧
      (Worksheet.read stockFiles stockFile "stock" true "0" "1").result = .ok stock ∧
      prices.collect.1
        = [.error (.source (.shortRecord "line 3" 1 1) (some "prices")), .ok ⟨"milk", "1"⟩] ∧
      stock.collect.1
        = [.ok ⟨"tea", "2"⟩, .error (.source (.shortRecord "row 4" 1 1) (some "stock"))] ∧
      Delimited.Accounted "prices" pricesColumns
        [.record 2 [], .record 3 ["tea"], .record 4 ["milk", "1"]] prices.collect.1 ∧
      Accounts "stock" stockColumns [.record "row 3" ["tea", "2"], .record "row 4" ["milk"]]
        stock.collect.1 := by
  have hprices : ((Delimited.read stockFiles Delimited.pricesFile ',' true "0" "1").result.map
      fun s => s.collect.1).toOption = some
        [.error (.source (.shortRecord "line 3" 1 1) (some "prices")), .ok ⟨"milk", "1"⟩] := by
    decide +kernel
  have hstock : ((Worksheet.read stockFiles stockFile "stock" true "0" "1").result.map
      fun s => s.collect.1).toOption = some
        [.ok ⟨"tea", "2"⟩, .error (.source (.shortRecord "row 4" 1 1) (some "stock"))] := by
    decide +kernel
  obtain ⟨prices, hreadPrices, hcollectPrices⟩ := map_eq_ok.1 (ok_of_toOption hprices)
  obtain ⟨stock, hreadStock, hcollectStock⟩ := map_eq_ok.1 (ok_of_toOption hstock)
  obtain ⟨-, hdelimited, hworksheet⟩ := elements_account
  obtain ⟨_, bytes, names, pricesColumns, hopened, -, -, hpricesAccount⟩ :=
    hdelimited _ _ _ _ _ _ _ hreadPrices
  obtain ⟨place, sheets, found, stockColumns, hplace, hsheets, hfound, -, hstockAccount⟩ :=
    hworksheet _ _ _ _ _ _ _ hreadStock
  cases hopened
  have hstockPlace : stockFile.location stockFiles = .ok ⟨"", ["stock.xlsx"]⟩ := rfl
  obtain rfl := Except.ok.inj (hplace.symm.trans hstockPlace)
  have hending : Path.extension ⟨"", ["stock.xlsx"]⟩ ∈ Worksheet.endings := by decide +kernel
  rw [Worksheet.sheetsOf, if_neg (not_not.2 hending)] at hsheets
  cases hsheets
  cases hfound
  have hrecords :
      (Delimited.recordsOfBytes ',' "name,price\n\ntea\nmilk,1\n".toUTF8.data.toList).drop 1
      = [.record 2 [], .record 3 ["tea"], .record 4 ["milk", "1"]] := by decide +kernel
  have hrows : Worksheet.entries ((stockSheet.rows.zipIdx 1).drop 1)
      = [.record "row 3" ["tea", "2"], .record "row 4" ["milk"]] := by decide +kernel
  rw [if_pos rfl, hrecords] at hpricesAccount
  rw [if_pos rfl, hrows] at hstockAccount
  exact ⟨prices, stock, pricesColumns, stockColumns, hreadPrices, hreadStock, hcollectPrices,
    hcollectStock, hpricesAccount, hstockAccount⟩

end Crosswalk
