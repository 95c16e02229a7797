import Mathlib.Data.String.Basic
import Rcoder.Lib.Sort
import Rcoder.Lifecycle.Run

/-!
# The recovery scan

A restarted owner reads the unfinished operations page by page. The cursor is the identity of
the last row of a page, and a page is the last one when it is not full; both count the rows as
they are stored, so a row that does not decode is passed over and hides nothing behind it.
-/

namespace Rcoder.Lifecycle

open Check

/-- A row of the table of operations. -/
structure OperationRow where
  operationId : String
  payloadVersion : Int
  /-- What the texts and the payloads of the other columns read as. -/
  columns : Except StoreError OperationRecord
  terminalAtUs : Option Int

def OperationRow.decode (row : OperationRow) : Except StoreError OperationRecord := do
  failIf (row.payloadVersion ≠ 1) (.storage "unsupported operation payload version")
  let record ← row.columns
  failIf (record.state.isTerminal ≠ row.terminalAtUs.isSome)
    (.storage "persisted operation terminal marker mismatch")
  decodeOperation { record with operationId := row.operationId }

abbrev OperationTable := Table OperationRow.operationId

structure RecoveryScanPage where
  records : List OperationRecord
  nextAfter : Option String
  exhausted : Bool

def OperationTable.unfinished (table : OperationTable) (after : Option String) :
    List OperationRow :=
  sortBy OperationRow.operationId <| table.rows.filter fun row =>
    after.getD "" < row.operationId ∧ row.terminalAtUs = none

def decodable (rows : List OperationRow) : List OperationRecord :=
  rows.filterMap fun row => row.decode.toOption

def scanUnfinishedOperations (table : OperationTable) (after : Option String) (limit : Nat) :
    Except StoreError RecoveryScanPage := do
  failIf (limit = 0 ∨ 1000 < limit) (.invalidOperation "Invalid recovery scan page size")
  let rows := (table.unfinished after).take limit
  pure { records := decodable rows
         nextAfter := rows.getLast?.map (·.operationId)
         exhausted := rows.length < limit }

/-- The records of all pages, or none when `fuel` pages are not enough. -/
def scanAll (table : OperationTable) (limit : Nat) :
    Nat → Option String → Except StoreError (Option (List OperationRecord))
  | 0, _ => pure none
  | fuel + 1, after => do
    let page ← scanUnfinishedOperations table after limit
    if page.exhausted then pure (some page.records)
    else
      let rest ← scanAll table limit fuel page.nextAfter
      pure (rest.map (page.records ++ ·))

variable {table : OperationTable} {after : Option String} {row : OperationRow}
  {record : OperationRecord} {limit fuel : Nat}

theorem decode_ok (h : row.decode = .ok record) :
    record.operationId = row.operationId ∧ row.operationId ≠ "" ∧
      record.state.isTerminal = row.terminalAtUs.isSome := by
  obtain ⟨-, h⟩ := failIf_bind h
  obtain ⟨read, -, h⟩ := bind_eq_ok.mp h
  obtain ⟨hmarker, h⟩ := failIf_bind h
  obtain ⟨rfl, -⟩ := Store.decodeOperation_ok h
  exact ⟨rfl, fun hid => (failIf_bind h).1 (.inl hid), not_not.mp hmarker⟩

theorem toOption_eq_some : row.decode.toOption = some record ↔ row.decode = .ok record := by
  cases row.decode <;> simp [Except.toOption]

theorem mem_decodable {rows : List OperationRow} :
    record ∈ decodable rows ↔ ∃ row ∈ rows, row.decode = .ok record := by
  simp only [decodable, List.mem_filterMap, toOption_eq_some]

theorem mem_unfinished : row ∈ table.unfinished after ↔
    row ∈ table.rows ∧ after.getD "" < row.operationId ∧ row.terminalAtUs = none := by
  rw [OperationTable.unfinished, (sortBy_perm ..).mem_iff, List.mem_filter, decide_eq_true_iff]

theorem unfinished_strict (table : OperationTable) (after : Option String) :
    (table.unfinished after).Pairwise fun a b => a.operationId < b.operationId :=
  sortBy_strict (table.nodup.sublist (List.filter_sublist.map _))

/-- The cursor after a page leaves exactly the rows behind it. -/
theorem unfinished_next {page rest : List OperationRow}
    (h : table.unfinished after = page ++ row :: rest) :
    table.unfinished (some row.operationId) = rest := by
  have hstrict := unfinished_strict table after
  rw [h, List.pairwise_append, List.pairwise_cons] at hstrict
  obtain ⟨-, ⟨hlater, hrest⟩, hearlier⟩ := hstrict
  have hmem (x : OperationRow) : x ∈ table.unfinished after ↔ x ∈ page ∨ x = row ∨ x ∈ rest := by
    simp [h]
  obtain ⟨-, hrow, -⟩ := mem_unfinished.mp ((hmem row).mpr (.inr (.inl rfl)))
  refine eq_of_strict (unfinished_strict ..) hrest fun x => ?_
  rw [mem_unfinished]
  constructor
  · rintro ⟨hx, hlt, hopen⟩
    obtain hpage | rfl | hx := (hmem x).mp (mem_unfinished.mpr ⟨hx, lt_trans hrow hlt, hopen⟩)
    · exact absurd hlt (lt_asymm (hearlier x hpage row (.head _)))
    · exact absurd hlt (lt_irrefl _)
    · exact hx
  · intro hx
    obtain ⟨hstored, -, hopen⟩ := mem_unfinished.mp ((hmem x).mpr (.inr (.inr hx)))
    exact ⟨hstored, hlater x hx, hopen⟩

theorem scanAll_eq (hlimit : 1 ≤ limit ∧ limit ≤ 1000)
    (hfuel : (table.unfinished after).length < fuel) :
    scanAll table limit fuel after = .ok (some (decodable (table.unfinished after))) := by
  induction fuel generalizing after with
  | zero => omega
  | succ fuel ih =>
    have hvalid : ¬(limit = 0 ∨ 1000 < limit) := by omega
    rw [scanAll, scanUnfinishedOperations, failIf_passed hvalid]
    by_cases hlast : (table.unfinished after).length < limit
    · rw [List.take_of_length_le hlast.le]
      simp [hlast, pure, Except.pure, bind, Except.bind]
    · -- a full page ends in a row, from which the next one goes on
      obtain ⟨page, row, hpage⟩ :
          ∃ page row, (table.unfinished after).take limit = page ++ [row] := by
        refine ⟨_, _, (List.dropLast_append_getLast ?_).symm⟩
        apply List.ne_nil_of_length_pos
        rw [List.length_take]
        omega
      have hfull : limit = page.length + 1 := by
        have hlength := congrArg List.length hpage
        simp only [List.length_take, List.length_append, List.length_singleton] at hlength
        omega
      have hrows := List.take_append_drop limit (table.unfinished after)
      rw [hpage, List.append_assoc, List.singleton_append] at hrows
      generalize (table.unfinished after).drop limit = rest at hrows
      have hnext := unfinished_next hrows.symm
      have hrest : scanAll table limit fuel (some row.operationId) = _ := ih (by
        rw [← hrows, List.length_append, List.length_cons] at hfuel
        rw [hnext]
        omega)
      have hrecords : decodable (table.unfinished after) =
          decodable (page ++ [row]) ++ decodable rest := by
        rw [← hrows, List.append_cons]
        exact List.filterMap_append
      rw [hnext] at hrest
      rw [hpage, hrecords]
      subst hfull
      simp [hrest, pure, Except.pure, bind, Except.bind]

/-- From the start of any table the scan ends, after at most one page more than there are rows,
and has then returned every decodable unfinished operation once, in the order of identities. -/
theorem scanAll_complete (table : OperationTable) (limit fuel : Nat)
    (hlimit : 1 ≤ limit ∧ limit ≤ 1000) (hfuel : table.rows.length < fuel) :
    ∃ records, scanAll table limit fuel none = .ok (some records) ∧
      records.Pairwise (fun a b => a.operationId < b.operationId) ∧
      ∀ record, record ∈ records ↔
        record.state.isTerminal = false ∧ ∃ row ∈ table.rows, row.decode = .ok record := by
  have hlength : (table.unfinished none).length < fuel := by
    rw [OperationTable.unfinished, (sortBy_perm ..).length_eq]
    exact lt_of_le_of_lt (List.length_filter_le ..) hfuel
  refine ⟨_, scanAll_eq hlimit hlength, ?_, fun record => ?_⟩
  · refine List.pairwise_filterMap.mpr ((unfinished_strict table none).imp ?_)
    intro a b hlt x hx y hy
    rw [(decode_ok (toOption_eq_some.mp hx)).1, (decode_ok (toOption_eq_some.mp hy)).1]
    exact hlt
  · rw [mem_decodable]
    constructor
    · rintro ⟨row, hrow, hd⟩
      obtain ⟨hstored, -, hopen⟩ := mem_unfinished.mp hrow
      obtain ⟨-, -, hmarker⟩ := decode_ok hd
      exact ⟨by rw [hmarker, hopen]; rfl, row, hstored, hd⟩
    · rintro ⟨hopen, row, hstored, hd⟩
      obtain ⟨-, hid, hmarker⟩ := decode_ok hd
      refine ⟨row, mem_unfinished.mpr ⟨hstored, ?_, by simpa [hopen] using hmarker.symm⟩, hd⟩
      rw [String.lt_iff_toList_lt]
      cases hs : row.operationId.toList with
      | nil => exact absurd (String.toList_eq_nil_iff.mp hs) hid
      | cons => exact List.nil_lt_cons ..

def openRecord (operationId : String) : OperationRecord where
  operationId
  appId := "app"
  lifecycleId := "life"
  requestId := none
  requestFingerprint := Sample.digest
  kind := ControlCommand.restart.kind
  scope := ControlCommand.restart.kind.scope
  state := .pending
  revision := 1
  executorId := none
  step := "accepted"
  checkpoint := .null
  errorCode := none
  errorMessage := none
  createdAt := 1

/-- The first page of two is full of rows that do not decode, and two that do are stored before
them. -/
def malformedPage : OperationTable where
  rows :=
    [⟨"d", 1, .ok (openRecord "d"), none⟩, ⟨"b", 2, .ok (openRecord "b"), none⟩,
      ⟨"c", 1, .ok (openRecord "c"), none⟩, ⟨"a", 1, .error .notFound, none⟩]
  nodup := by decide

theorem scanAll_complete_malformedPage :
    scanAll malformedPage 2 5 none = .ok (some [openRecord "c", openRecord "d"]) := by
  obtain ⟨records, hscan, hsorted, hmem⟩ :=
    scanAll_complete malformedPage 2 5 (by decide) (by decide)
  have hstrict : [openRecord "c", openRecord "d"].Pairwise
      fun a b => a.operationId < b.operationId := by decide
  have hdecode : ∀ row ∈ malformedPage.rows, row.decode.toOption =
      if row.operationId ∈ ["c", "d"] then some (openRecord row.operationId) else none := by
    decide +kernel
  rw [hscan, eq_of_strict hsorted hstrict fun record => (hmem record).trans ⟨?_, ?_⟩]
  · rintro ⟨-, row, hrow, hd⟩
    have hfound := (hdecode row hrow).symm.trans (toOption_eq_some.mpr hd)
    split_ifs at hfound with hid
    cases hfound
    exact List.mem_map_of_mem (f := openRecord) hid
  · intro hrecord
    have hstored : ∃ row ∈ malformedPage.rows, row.operationId ∈ ["c", "d"] ∧
        record = openRecord row.operationId := by
      obtain rfl | rfl : record = openRecord "c" ∨ record = openRecord "d" := by simpa using hrecord
      · exact ⟨_, .tail _ (.tail _ (.head _)), .head _, rfl⟩
      · exact ⟨_, .head _, .tail _ (.head _), rfl⟩
    obtain ⟨row, hrow, hid, rfl⟩ := hstored
    exact ⟨rfl, row, hrow, toOption_eq_some.mp ((hdecode row hrow).trans (if_pos hid))⟩

end Rcoder.Lifecycle
