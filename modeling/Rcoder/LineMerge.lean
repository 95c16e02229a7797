import Mathlib.Data.List.Infix
import Mathlib.Tactic.Common

/-!
# Merging a text line by line

A modification of a file is merged into its lines: equal lines stay, the line ends are those of
the old text. A line may itself end in a carriage return, and in front of a bare line feed that
return is read as a part of the line end.
-/

namespace Rcoder.LineMerge

open List

abbrev Text := List Char

def lf : Text := ['\n']

def crlf : Text := ['\r', '\n']

/-- `replace("\r\n", "\n")`. -/
def normalize : Text → Text
  | '\r' :: '\n' :: rest => '\n' :: normalize rest
  | c :: rest => c :: normalize rest
  | [] => []

def diffContentByLines (existing new : Text) : Text × Nat :=
  let oldLines := (normalize existing).splitOn '\n'
  let newLines := (normalize new).splitOn '\n'
  let aligned := List.zipWith (fun old new => if old ≠ new then new else old) oldLines newLines
  let replaced := (oldLines.zip newLines).countP fun (old, new) => old ≠ new
  let (out, changes) :=
    if oldLines.length > newLines.length then
      (aligned, replaced + (oldLines.length - newLines.length))
    else (aligned ++ newLines.drop oldLines.length,
      replaced + (newLines.length - oldLines.length))
  ((if crlf <:+: existing then crlf else lf).intercalate out, changes)

/-! ### Lines -/

/-- The lines of a text with the end of each, and what follows the last end. -/
def pieces : Text → List (Text × Text) × Text
  | [] => ([], [])
  | '\r' :: '\n' :: rest => (([], crlf) :: (pieces rest).1, (pieces rest).2)
  | '\n' :: rest => (([], lf) :: (pieces rest).1, (pieces rest).2)
  | c :: rest =>
    match pieces rest with
    | ([], last) => ([], c :: last)
    | ((line, ending) :: more, last) => ((c :: line, ending) :: more, last)

def lines (text : Text) : List Text := (pieces text).1.map Prod.fst ++ [(pieces text).2]

def lineEnds (text : Text) : List Text := (pieces text).1.map Prod.snd

variable {c : Char} {line rest text existing new : Text}

theorem lines_cons (hreturn : ∀ tail, c = '\r' → rest = '\n' :: tail → False)
    (hc : c = '\n' → False) : lines (c :: rest) = (lines rest).modifyHead (c :: ·) := by
  rw [lines, pieces.eq_4 c rest hreturn hc, lines]
  obtain ⟨_ | ⟨⟨line, ending⟩, more⟩, last⟩ := pieces rest <;> rfl

/-- Splitting the normalized text gives its lines. -/
theorem splitOn_normalize (text : Text) : (normalize text).splitOn '\n' = lines text := by
  fun_induction normalize text with
  | case1 rest ih => simpa [lines, pieces, splitOn, splitOnP_cons_eq_if_modifyHead] using ih
  | case2 c rest hreturn ih =>
    by_cases hc : c = '\n'
    · subst hc
      simpa [lines, pieces, splitOn, splitOnP_cons_eq_if_modifyHead] using ih
    · rw [lines_cons hreturn hc, ← ih]
      simp [splitOn, splitOnP_cons_eq_if_modifyHead, hc]
  | case3 => rfl

theorem aligned_eq (old new : List Text) :
    zipWith (fun old new => if old ≠ new then new else old) old new ++
      new.drop old.length = new := by
  induction old generalizing new with
  | nil => simp
  | cons line old ih =>
    cases new with
    | nil => rfl
    | cons line' new => by_cases h : line = line' <;> simpa [h] using ih new

theorem replaced_eq_zero (old new : List Text) :
    (old.zip new).countP (fun (old, new) => old ≠ new) = 0 ∧ old.length = new.length ↔
      old = new := by
  induction old generalizing new with
  | nil => cases new <;> simp
  | cons line old ih =>
    cases new with
    | nil => simp
    | cons line' new =>
      by_cases h : line = line'
      · simpa [h] using ih new
      · simp [h]

theorem diffContentByLines_spec (existing new : Text) :
    (diffContentByLines existing new).1 =
        (if crlf <:+: existing then crlf else lf).intercalate (lines new) ∧
      ((diffContentByLines existing new).2 = 0 ↔ lines existing = lines new) := by
  have haligned := aligned_eq (lines existing) (lines new)
  rw [← replaced_eq_zero]
  simp only [diffContentByLines, splitOn_normalize]
  by_cases hlonger : (lines existing).length > (lines new).length
  · rw [drop_eq_nil_of_le (Nat.le_of_lt hlonger), append_nil] at haligned
    rw [if_pos hlonger, haligned]
    exact ⟨rfl, Nat.add_eq_zero_iff.trans (and_congr_right fun _ => by omega)⟩
  · rw [if_neg hlonger, haligned]
    exact ⟨rfl, Nat.add_eq_zero_iff.trans (and_congr_right fun _ => by omega)⟩

/-! ### Joined lines -/

/-- A line and its end as they are read back: a return before a bare line feed belongs to the
end. -/
def terminated (ending line : Text) : Text × Text :=
  if ending = lf ∧ line.getLast? = some '\r' then (line.dropLast, crlf) else (line, ending)

theorem pieces_append {ending : Text} (hending : ending = lf ∨ ending = crlf)
    (hline : '\n' ∉ line) :
    pieces (line ++ (ending ++ rest)) =
      (terminated ending line :: (pieces rest).1, (pieces rest).2) := by
  induction line with
  | nil => obtain rfl | rfl := hending <;> simp [pieces, terminated, lf, crlf]
  | cons c line ih =>
    obtain ⟨hc, hline⟩ := not_or.mp (mem_cons.not.mp hline)
    cases line with
    | nil =>
      by_cases hreturn : ending = lf ∧ c = '\r'
      · obtain ⟨rfl, rfl⟩ := hreturn
        simp [pieces, terminated, lf]
      · rw [cons_append, pieces.eq_4 _ _ ?_ (Ne.symm hc), ih hline]
        · simp only [terminated, getLast?_nil, getLast?_singleton]
          simp [hreturn]
        · rintro tail rfl htail
          obtain rfl | rfl := hending
          · simp at hreturn
          · simp [crlf] at htail
    | cons =>
      rw [cons_append, pieces.eq_4 _ _ ?_ (Ne.symm hc), ih hline]
      · simp only [terminated, getLast?_cons_cons]
        split <;> simp
      · rintro tail - htail
        exact hline (by simp [(cons.inj htail).1])

theorem pieces_of_no_end (hline : '\n' ∉ line) : pieces line = ([], line) := by
  induction line with
  | nil => rfl
  | cons c line ih =>
    obtain ⟨hc, hline⟩ := not_or.mp (mem_cons.not.mp hline)
    rw [pieces.eq_4 _ _ ?_ (Ne.symm hc), ih hline]
    rintro tail - rfl
    simp at hline

theorem pieces_intercalate {ending last : Text} (hending : ending = lf ∨ ending = crlf)
    {init : List Text} (hinit : ∀ line ∈ init, '\n' ∉ line) (hlast : '\n' ∉ last) :
    pieces (ending.intercalate (init ++ [last])) = (init.map (terminated ending), last) := by
  induction init with
  | nil => simpa using pieces_of_no_end hlast
  | cons line init ih =>
    have hnext : ending.intercalate (line :: (init ++ [last])) =
        line ++ (ending ++ ending.intercalate (init ++ [last])) := by
      cases init <;> simp
    rw [cons_append, hnext, pieces_append hending (hinit line (by simp)),
      ih fun other hother => hinit other (by simp [hother])]
    rfl

theorem not_mem_lines (text : Text) : ∀ line ∈ lines text, '\n' ∉ line := by
  induction text using normalize.induct with
  | case1 rest ih => simpa [lines, pieces] using ih
  | case2 c rest hreturn ih =>
    by_cases hc : c = '\n'
    · subst hc
      simpa [lines, pieces] using ih
    · rw [lines_cons hreturn hc]
      cases hlines : lines rest with
      | nil => simp
      | cons =>
        simp only [hlines, forall_mem_cons] at ih
        simpa [Ne.symm hc] using ih
  | case3 => simp [lines, pieces]

/-- What is promised of the merged text and of the number of changes. -/
structure Merged (existing new out : Text) (changes : Nat) : Prop where
  same : lines out = lines new
  changed : changes = 0 ↔ lines existing = lines new
  ends : ∀ ending ∈ lineEnds out, ending = if crlf <:+: existing then crlf else lf
  again : (diffContentByLines out new).2 = 0

/-- The promise is kept unless a bare line feed is put behind a line that ends in a return. -/
theorem merged_iff (existing new : Text) :
    Merged existing new (diffContentByLines existing new).1 (diffContentByLines existing new).2 ↔
      crlf <:+: existing ∨ ∀ line ∈ (lines new).dropLast, line.getLast? ≠ some '\r' := by
  obtain ⟨hout, hchanges⟩ := diffContentByLines_spec existing new
  have hplain := not_mem_lines new
  rw [hout]
  generalize hinit : (pieces new).1.map Prod.fst = init
  generalize hlast : (pieces new).2 = last
  have hlines : lines new = init ++ [last] := by rw [lines, hinit, hlast]
  generalize hending : (if crlf <:+: existing then crlf else lf) = ending
  have hbare : ending = lf ∨ ending = crlf := by
    rw [← hending]
    split <;> simp
  have hpieces : pieces (ending.intercalate (lines new)) = (init.map (terminated ending), last) := by
    rw [hlines] at hplain ⊢
    exact pieces_intercalate hbare (fun line hline => hplain line (by simp [hline]))
      (hplain last (by simp))
  constructor
  · rintro ⟨-, -, hends, -⟩
    refine or_iff_not_imp_left.mpr fun hnone line hline hreturn => ?_
    rw [if_neg hnone] at hending
    rw [hlines, dropLast_concat] at hline
    have hend := hends (terminated ending line).2 (by
      rw [lineEnds, hpieces]
      exact mem_map_of_mem (mem_map_of_mem hline))
    rw [if_neg hnone, terminated, if_pos ⟨hending.symm, hreturn⟩] at hend
    cases hend
  · intro hkept
    have hterminated : init.map (terminated ending) = init.map fun line => (line, ending) := by
      refine map_congr_left fun line hline => if_neg ?_
      rintro ⟨rfl, hreturn⟩
      obtain hsome | hno := hkept
      · rw [if_pos hsome] at hending
        cases hending
      · exact hno line (by simpa [hlines] using hline) hreturn
    have hsame : lines (ending.intercalate (lines new)) = lines new := by
      rw [lines, hpieces, hterminated, hlines]
      simp [Function.comp_def]
    refine ⟨hsame, hchanges, fun line hline => ?_, (diffContentByLines_spec _ new).2.mpr hsame⟩
    rw [lineEnds, hpieces, hterminated, map_map] at hline
    obtain ⟨_, -, rfl⟩ := mem_map.mp hline
    exact hending.symm

/-- A return before the line end, merged into a text without any. -/
theorem stray_return_lost :
    diffContentByLines [] "a\r\r\nb".toList = ("a\r\nb".toList, 2) ∧
      ¬Merged [] "a\r\r\nb".toList "a\r\nb".toList 2 := by
  have hout : diffContentByLines [] "a\r\r\nb".toList = ("a\r\nb".toList, 2) := by decide +kernel
  refine ⟨hout, fun hmerged => ?_⟩
  have hsame := hmerged.same
  revert hsame
  decide +kernel

end Rcoder.LineMerge
