import Mathlib

/-!
# The quota of an extraction

An archive is extracted entry by entry under a limit on its size. What is added up and compared
is the size an entry declares; what is written is whatever its reader yields. A tar reader ends
at the declared size. That a zip reader does not go beyond it is up to the zip crate.
-/

namespace Rcoder.Extraction

inductive ArchiveError
  | io (cause : String)
  | pathTraversal (message : String)
  | invalidArchive (message : String)
  | tooLarge (size max : Nat)
  deriving DecidableEq

inductive EntryType
  | dir
  | file
  | other

/-- An entry, with the answers of the file system and of its reader. -/
structure Entry where
  type : EntryType
  size : Except ArchiveError Nat
  /-- The entry is read, its path checked and its directory made. -/
  prepared : Except ArchiveError Unit
  created : Except ArchiveError Unit
  /-- The lengths of the reads that are written, and how the copy ends. -/
  reads : List Nat
  copied : Except ArchiveError Unit

/-- The reader yields at most what is declared. -/
def Entry.Bounded (entry : Entry) : Prop := ∀ size, entry.size = .ok size → entry.reads.sum ≤ size

structure Extracted where
  fileCount : Nat := 0
  totalUncompressed : Nat := 0
  written : Nat := 0

def u64Max : Nat := 2 ^ 64 - 1

def account (size : Except ArchiveError Nat) (total : Nat) :
    Option Nat → Except ArchiveError Nat
  | none => .ok total
  | some max =>
    match size with
    | .error e => .error e
    | .ok size =>
      let total := min (total + size) u64Max
      if total > max then .error (.tooLarge total max) else .ok total

def extractEntry (max : Option Nat) (entry : Entry) (x : Extracted) :
    Except ArchiveError Unit × Extracted :=
  match entry.prepared, account entry.size x.totalUncompressed max with
  | .error e, _ => (.error e, x)
  | .ok _, .error e => (.error e, x)
  | .ok _, .ok totalUncompressed =>
    match entry.type, entry.created with
    | .dir, created => (created, { x with totalUncompressed })
    | .file, .error e => (.error e, { x with totalUncompressed, fileCount := x.fileCount + 1 })
    | .file, .ok _ =>
      (entry.copied, ⟨x.fileCount + 1, totalUncompressed, x.written + entry.reads.sum⟩)
    | .other, _ => (.ok (), { x with totalUncompressed })

/-- The loop of both formats; `synced` is the answer of the last `sync_all`. -/
def extract (max : Option Nat) (synced : Except ArchiveError Unit) :
    List Entry → Extracted → Except ArchiveError Nat × Extracted
  | [], x => (if x.fileCount > 0 then synced.map fun _ => x.fileCount else .ok x.fileCount, x)
  | entry :: entries, x =>
    match extractEntry max entry x with
    | (.error e, x) => (.error e, x)
    | (.ok _, x) => extract max synced entries x

def extractZip (entries : List Entry) (synced : Except ArchiveError Unit) (max : Option Nat) :
    Except ArchiveError Nat × Extracted :=
  extract max synced entries {}

def extractTarGz (entries : List { entry : Entry // entry.Bounded })
    (synced : Except ArchiveError Unit) (max : Option Nat) : Except ArchiveError Nat × Extracted :=
  extract max synced (entries.map Subtype.val) {}

/-- What the zip crate sees to, which fails a read beyond the declared size. -/
def ZipReaderBounded (entries : List Entry) : Prop := ∀ entry ∈ entries, entry.Bounded

variable {max : Nat} {entry : Entry} {entries : List Entry} {synced : Except ArchiveError Unit}
  {x : Extracted}

/-- A total that passes a limit below the largest number was not cut off. -/
theorem account_ok {size : Except ArchiveError Nat} {total after : Nat} (hmax : max < u64Max)
    (h : account size total (some max) = .ok after) :
    ∃ n, size = .ok n ∧ after = total + n ∧ after ≤ max := by
  cases size with
  | error => cases h
  | ok n =>
    simp only [account] at h
    split_ifs at h with hlarge
    cases h
    exact ⟨n, rfl, by omega, by omega⟩

/-- What has been written is covered by the declared sizes. -/
def Extracted.Covered (max : Nat) (x : Extracted) : Prop :=
  x.written ≤ x.totalUncompressed ∧ x.totalUncompressed ≤ max

theorem extractEntry_covered (hmax : max < u64Max) (hbounded : entry.Bounded)
    (h : x.Covered max) : (extractEntry (some max) entry x).2.Covered max := by
  obtain ⟨hwritten, htotal⟩ := h
  unfold extractEntry
  split
  · exact ⟨hwritten, htotal⟩
  · exact ⟨hwritten, htotal⟩
  · rename_i total _ haccount
    obtain ⟨n, hsize, rfl, hle⟩ := account_ok hmax haccount
    have hreads := hbounded n hsize
    split <;> exact ⟨by dsimp only; omega, hle⟩

theorem extract_covered (hmax : max < u64Max) (hbounded : ∀ entry ∈ entries, entry.Bounded)
    (h : x.Covered max) : (extract (some max) synced entries x).2.Covered max := by
  induction entries generalizing x with
  | nil => exact h
  | cons entry entries ih =>
    have hentry := extractEntry_covered hmax (hbounded entry (.head _)) h
    rw [extract]
    split
    · rename_i heq
      rwa [heq] at hentry
    · rename_i heq
      rw [heq] at hentry
      exact ih (fun entry he => hbounded entry (.tail _ he)) hentry

theorem extract_written (hmax : max < u64Max) (hbounded : ∀ entry ∈ entries, entry.Bounded) :
    (extract (some max) synced entries {}).2.written ≤ max := by
  have hstart : Extracted.Covered max {} := ⟨Nat.le_refl _, Nat.zero_le _⟩
  obtain ⟨hwritten, htotal⟩ := extract_covered hmax hbounded hstart
  exact Nat.le_trans hwritten htotal

/-- Below the largest limit no more than the limit is written, by any tar archive and by any zip
archive whose readers are bounded by the crate. -/
theorem extraction_quota (max : Nat) (hmax : max < u64Max) (synced : Except ArchiveError Unit) :
    (∀ entries, (extractTarGz entries synced (some max)).2.written ≤ max) ∧
      ∀ entries, ZipReaderBounded entries →
        (extractZip entries synced (some max)).2.written ≤ max := by
  refine ⟨fun entries => extract_written hmax fun entry he => ?_, fun _ => extract_written hmax⟩
  obtain ⟨bounded, -, rfl⟩ := List.mem_map.mp he
  exact bounded.2

def sampleFile (size : Nat) (reads : List Nat) : Entry :=
  ⟨.file, .ok size, .ok (), .ok (), reads, .ok ()⟩

/-- The second file would go beyond the limit, so that only the first one is written. -/
theorem extraction_quota_refused :
    let run := extractZip [sampleFile 2 [1, 1], sampleFile 2 [2]] (.ok ()) (some 3)
    run.1 = .error (.tooLarge 4 3) ∧ run.2.written = 2 ∧ run.2.written ≤ 3 := by
  refine ⟨rfl, rfl, (extraction_quota 3 (by decide) (.ok ())).2 _ ?_⟩
  simp [ZipReaderBounded, Entry.Bounded, sampleFile]

/-- A zip reader that yields a byte where nothing is declared. -/
theorem zip_exceeds_quota : ¬(extractZip [sampleFile 0 [1]] (.ok ()) (some 0)).2.written ≤ 0 := by
  decide

end Rcoder.Extraction
