import DreamHeroes.CutLists
import DreamHeroes.LoopOutcomes
import DreamHeroes.SuitText

/- The loops of SplitStringA with their ints and their size_ts. -/
namespace StringSplits

open ByteWords LoopOutcomes CutLists SuitText

def npos : Nat := 2 ^ 64 - 1

/-- A size_t as an int. -/
def toInt (n : Nat) : Int := Int.bmod n (2 ^ 32)

/-- An int as a size_t. -/
def toSize (i : Int) : Nat := (i % 2 ^ 64).toNat

/-- `strIn.find(strDelimiter, pos)` -/
def findFrom (strIn strDelimiter : Bytes) (pos : Nat) : Nat :=
  match find strDelimiter (strIn.drop pos) with
  | some n => pos + n
  | none => npos

/-- `strIn.substr(pos, n)`, which throws out_of_range. -/
def substr (strIn : Bytes) (pos n : Nat) : Outcome Bytes :=
  if pos ≤ strIn.length then .done ((strIn.drop pos).take n) else .fault

/-- `positions[i]` -/
def position (positions : List Int) (i : Nat) : Outcome Int :=
  match positions[i]? with
  | some p => .done p
  | none => .fault

/- The while loop. -/
def collect (strIn strDelimiter : Bytes) :
    Nat → Int → Int → Int → List Int → Outcome (Int × List Int)
  | turns, iPos, newPos, numFound, positions =>
      if newPos ≥ iPos then
        match turns with
        | 0 => .running
        | turns + 1 =>
            (int (numFound + 1)).bind fun numFound =>
              (int (newPos + toInt strDelimiter.length)).bind fun start =>
                collect strIn strDelimiter turns newPos
                  (toInt (findFrom strIn strDelimiter (toSize start))) numFound
                  (positions ++ [newPos])
      else .done (numFound, positions)

/- The string s of one turn of the for loop. -/
def piece (strIn strDelimiter : Bytes) (positions : List Int) (i : Nat) : Outcome Bytes :=
  if i = 0 then
    (position positions i).bind fun p => substr strIn i (toSize p)
  else
    (position positions (i - 1)).bind fun before =>
      (int (before + toInt strDelimiter.length)).bind fun offset =>
        if offset < toInt strIn.length then
          if i = positions.length then substr strIn (toSize offset) npos
          else
            (position positions i).bind fun p =>
              (int (p - before)).bind fun apart =>
                (int (apart - toInt strDelimiter.length)).bind fun n =>
                  substr strIn (toSize offset) (toSize n)
        else .done []

/- The for loop. -/
def cut (strIn strDelimiter : Bytes) (positions : List Int) :
    List Nat → List Bytes → Outcome (List Bytes)
  | [], ret => .done ret
  | i :: rest, ret =>
      (piece strIn strDelimiter positions i).bind fun s =>
        cut strIn strDelimiter positions rest (if s.length > 0 then ret ++ [s] else ret)

/- The value returned, and ret. -/
def splitStringA (turns : Nat) (strIn strDelimiter : Bytes) : Outcome (Int × List Bytes) :=
  if toInt strDelimiter.length = 0 ∨ toInt strIn.length = 0 then .done (0, [])
  else
    let newPos := toInt (findFrom strIn strDelimiter 0)
    if newPos < 0 then .done (1, [strIn])
    else
      (collect strIn strDelimiter turns 0 newPos 0 []).bind fun (numFound, positions) =>
        (cut strIn strDelimiter positions (List.range (positions.length + 1)) []).bind fun ret =>
          .done (numFound, ret)

/-- The input and the delimiter are shorter than 2^31 bytes, and neither is empty. -/
structure Short (strIn strDelimiter : Bytes) : Prop where
  input : strIn.length < 2 ^ 31
  delimiter : strDelimiter.length < 2 ^ 31
  nonempty : strDelimiter ≠ []

section Numbers

variable {n : Nat}

theorem toInt_of_lt (small : n < 2 ^ 31) : toInt n = n := by
  have lower : -((2 ^ 32 : Nat) / 2 : Int) ≤ n := by omega
  have upper : (n : Int) < ((2 ^ 32 : Nat) + 1) / 2 := by omega
  exact Int.bmod_eq_of_le lower upper

@[simp] theorem toInt_npos : toInt npos = -1 := by decide +kernel

theorem toSize_natCast (small : n < 2 ^ 31) : toSize n = n := by
  have same : (n : Int) % 2 ^ 64 = n := Int.emod_eq_of_lt (by omega) (by omega)
  rw [toSize, same, Int.toNat_natCast]

end Numbers

section Finding

variable {d s : Bytes} {n start : Nat}

theorem find_first (found : find d s = some n) : First d s n := by
  induction s generalizing n with
  | nil =>
    unfold find at found
    split at found
    · rename_i empty
      cases found
      exact ⟨by simp [empty], fun m before => absurd before (Nat.not_lt_zero m)⟩
    · cases found
  | cons b rest ih =>
    unfold find at found
    split at found
    · rename_i here
      cases found
      exact ⟨List.isPrefixOf_iff_prefix.mp here, fun m before => absurd before (Nat.not_lt_zero m)⟩
    · rename_i other
      obtain ⟨m, later, rfl⟩ := Option.map_eq_some_iff.mp found
      exact first_cons (fun here => other (List.isPrefixOf_iff_prefix.mpr here)) (ih later)

theorem find_absent (nonempty : d ≠ []) (none : find d s = none) : Absent d s := by
  induction s with
  | nil => exact absent_nil nonempty
  | cons b rest ih =>
    unfold find at none
    split at none
    · cases none
    · rename_i other
      exact absent_cons (fun here => other (List.isPrefixOf_iff_prefix.mpr here))
        (ih (Option.map_eq_none_iff.mp none))

theorem find_inside (nonempty : d ≠ []) (found : find d (s.drop start) = some n) :
    start + n + d.length ≤ s.length := by
  have inside := first_inside nonempty (find_first found)
  have some := List.length_pos_of_ne_nil nonempty
  rw [List.length_drop] at inside
  omega

theorem findFrom_found (short : Short s d) (found : find d (s.drop start) = some n) :
    toInt (findFrom s d start) = (start + n : Nat) := by
  have inside := find_inside short.nonempty found
  have few := short.input
  simp only [findFrom, found]
  exact toInt_of_lt (by omega)

theorem findFrom_absent (none : find d (s.drop start) = none) :
    toInt (findFrom s d start) = -1 := by
  rw [findFrom, none]
  exact toInt_npos

end Finding

/-- The positions cut the input where the leftmost occurrences are. -/
theorem pieces_cuts {strIn d : Bytes} (nonempty : d ≠ []) (fuel offset : Nat)
    (budget : strIn.length ≤ offset + fuel) :
    Cuts d (strIn.drop offset) (pieces strIn d.length offset (positions strIn d fuel offset)) := by
  induction fuel generalizing offset with
  | zero =>
    have stop : strIn.drop offset = [] := List.drop_eq_nil_of_le (by omega)
    rw [positions, pieces, stop]
    exact .whole (absent_nil nonempty)
  | succ fuel ih =>
    unfold positions
    split
    · rename_i none
      exact .whole (find_absent nonempty none)
    · rename_i n found
      have some := List.length_pos_of_ne_nil nonempty
      have rest := ih (offset + n + d.length) (by omega)
      rw [Nat.add_assoc, ← List.drop_drop] at rest
      have first := Cuts.first (find_first found) rest
      simpa [pieces, Nat.add_assoc] using first

section Loops

variable {strIn d : Bytes}

def ints (positions : List Nat) : List Int := positions.map Int.ofNat

@[simp] theorem ints_nil : ints [] = [] := rfl

@[simp] theorem ints_cons {p : Nat} {rest : List Nat} :
    ints (p :: rest) = (p : Int) :: ints rest := rfl

@[simp] theorem ints_length {positions : List Nat} :
    (ints positions).length = positions.length := List.length_map _

theorem collect_done (short : Short strIn d) (turns : Nat) {start iPos numFound : Nat}
    (inside : start ≤ strIn.length) (before : iPos ≤ start) (few : numFound ≤ start)
    (budget : strIn.length ≤ start + turns) (found : List Int) :
    ∃ all : Nat, collect strIn d turns iPos (toInt (findFrom strIn d start)) numFound found =
      .done ((all : Int), found ++ ints (positions strIn d turns start)) := by
  induction turns generalizing start iPos numFound found with
  | zero =>
    have stop : strIn.drop start = [] := List.drop_eq_nil_of_le (by omega)
    have none : find d (strIn.drop start) = none := by
      rw [stop, find, if_neg short.nonempty]
    rw [findFrom_absent none]
    refine ⟨numFound, ?_⟩
    unfold collect
    rw [if_neg (by omega)]
    simp [positions]
  | succ turns ih =>
    cases found' : find d (strIn.drop start) with
    | none =>
      rw [findFrom_absent found']
      refine ⟨numFound, ?_⟩
      unfold collect
      rw [if_neg (by omega)]
      simp [positions, found']
    | some n =>
      have within := find_inside short.nonempty found'
      have some := List.length_pos_of_ne_nil short.nonempty
      have size := short.input
      obtain ⟨all, later⟩ := @ih (start + n + d.length) (start + n) (numFound + 1) (by omega)
        (by omega) (by omega) (by omega) (found ++ [((start + n : Nat) : Int)])
      refine ⟨all, ?_⟩
      have next : ((start + n : Nat) : Int) + (d.length : Nat) = (start + n + d.length : Nat) := by
        omega
      have count : (numFound : Int) + 1 = (numFound + 1 : Nat) := by omega
      rw [findFrom_found short found']
      unfold collect
      rw [if_pos (by omega), count]
      simp only [int_natCast (by omega : numFound + 1 < 2 ^ 31), Outcome.done_bind,
        toInt_of_lt short.delimiter, next,
        int_natCast (by omega : start + n + d.length < 2 ^ 31),
        toSize_natCast (by omega : start + n + d.length < 2 ^ 31), later]
      simp [positions, found']

theorem keep_nonempty (s : Bytes) (ret : List Bytes) :
    (if s.length > 0 then ret ++ [s] else ret) = ret ++ [s].filter (· ≠ []) := by
  cases s <;> simp

theorem position_here (front : List Int) (p : Int) (tail : List Int) :
    position (front ++ p :: tail) front.length = .done p := by
  simp [position]

theorem substr_npos (short : Short strIn d) {start : Nat} (inside : start ≤ strIn.length) :
    substr strIn start npos = .done (strIn.drop start) := by
  have size := short.input
  have all : (strIn.drop start).take npos = strIn.drop start := by
    apply List.take_of_length_le
    rw [List.length_drop, npos]
    omega
  rw [substr, if_pos inside, all]

/-- The offset behind the delimiter at q. -/
theorem int_offset (short : Short strIn d) {q : Nat} (inside : q + d.length ≤ strIn.length) :
    int ((q : Int) + toInt d.length) = .done ((q + d.length : Nat) : Int) := by
  have size := short.input
  rw [toInt_of_lt short.delimiter, ← int_natCast (by omega : q + d.length < 2 ^ 31)]
  congr 1

theorem piece_last (short : Short strIn d) {q : Nat} (inside : q + d.length ≤ strIn.length)
    (front : List Int) :
    piece strIn d (front ++ [(q : Int)]) (front.length + 1) =
      .done (strIn.drop (q + d.length)) := by
  have size := short.input
  unfold piece
  rw [if_neg (Nat.succ_ne_zero _), Nat.add_sub_cancel, position_here, Outcome.done_bind,
    int_offset short inside, Outcome.done_bind, toInt_of_lt size]
  split
  · rw [if_pos (by simp), toSize_natCast (by omega), substr_npos short inside]
  · rename_i atEnd
    rw [List.drop_eq_nil_of_le (by omega)]

theorem piece_between (short : Short strIn d) {q n : Nat}
    (inside : q + d.length + n + d.length ≤ strIn.length) (front tail : List Int) :
    piece strIn d (front ++ (q : Int) :: ((q + d.length + n : Nat) : Int) :: tail)
        (front.length + 1) = .done ((strIn.drop (q + d.length)).take n) := by
  have size := short.input
  have some := List.length_pos_of_ne_nil short.nonempty
  have next := position_here (front ++ [(q : Int)]) ((q + d.length + n : Nat) : Int) tail
  rw [List.append_assoc, List.singleton_append, List.length_append, List.length_singleton] at next
  have apart : ((q + d.length + n : Nat) : Int) - q = (d.length + n : Nat) := by omega
  have width : ((d.length + n : Nat) : Int) - (d.length : Nat) = (n : Nat) := by omega
  unfold piece
  rw [if_neg (Nat.succ_ne_zero _), Nat.add_sub_cancel, position_here, Outcome.done_bind,
    int_offset short (by omega), Outcome.done_bind, toInt_of_lt size, if_pos (by omega),
    if_neg (by simp), next, Outcome.done_bind, apart, int_natCast (by omega), Outcome.done_bind,
    toInt_of_lt short.delimiter, width, int_natCast (by omega), Outcome.done_bind,
    toSize_natCast (by omega), toSize_natCast (by omega), substr, if_pos (by omega)]

theorem cut_last (short : Short strIn d) {q : Nat} (inside : q + d.length ≤ strIn.length)
    (front : List Int) (ret : List Bytes) :
    cut strIn d (front ++ [(q : Int)]) [front.length + 1] ret =
      .done (ret ++ [strIn.drop (q + d.length)].filter (· ≠ [])) := by
  rw [cut, piece_last short inside, Outcome.done_bind, keep_nonempty, cut]

/-- The turns behind the delimiter at q cut out what lies between the positions. -/
theorem cut_pieces (short : Short strIn d) (fuel : Nat) {q : Nat}
    (inside : q + d.length ≤ strIn.length) (front : List Int) (ret : List Bytes) :
    cut strIn d (front ++ (q : Int) :: ints (positions strIn d fuel (q + d.length)))
        (List.range' (front.length + 1) ((positions strIn d fuel (q + d.length)).length + 1)) ret =
      .done (ret ++ (pieces strIn d.length (q + d.length)
        (positions strIn d fuel (q + d.length))).filter (· ≠ [])) := by
  induction fuel generalizing q front ret with
  | zero => exact cut_last short inside front ret
  | succ fuel ih =>
    unfold positions
    split
    · exact cut_last short inside front ret
    · rename_i n found
      have within := find_inside short.nonempty found
      have width : q + d.length + n - (q + d.length) = n := by omega
      have later := ih within (front ++ [(q : Int)])
        (ret ++ [(strIn.drop (q + d.length)).take n].filter (· ≠ []))
      rw [List.append_assoc, List.singleton_append, List.length_append, List.length_singleton,
        List.append_assoc, ← List.filter_append, List.singleton_append] at later
      rw [List.length_cons, List.range'_succ, cut, ints_cons, piece_between short within,
        Outcome.done_bind, keep_nonempty, pieces, width]
      exact later

/-- The whole for loop, from the first position. -/
theorem cut_done (short : Short strIn d) (fuel : Nat) {p : Nat}
    (inside : p + d.length ≤ strIn.length) :
    cut strIn d (ints (p :: positions strIn d fuel (p + d.length)))
        (List.range ((p :: positions strIn d fuel (p + d.length)).length + 1)) [] =
      .done ((pieces strIn d.length 0
        (p :: positions strIn d fuel (p + d.length))).filter (· ≠ [])) := by
  have size := short.input
  have first : piece strIn d (ints (p :: positions strIn d fuel (p + d.length))) 0 =
      .done (strIn.take p) := by
    have front : position (ints (p :: positions strIn d fuel (p + d.length))) 0 = .done (p : Int) :=
      rfl
    unfold piece
    rw [if_pos rfl, front, Outcome.done_bind, toSize_natCast (by omega), substr,
      if_pos (Nat.zero_le _), List.drop_zero]
  have later := cut_pieces short fuel inside [] ([] ++ [strIn.take p].filter (· ≠ []))
  rw [List.nil_append, List.nil_append, ← List.filter_append, List.singleton_append] at later
  rw [List.range_eq_range', List.range'_succ, cut, first, Outcome.done_bind, keep_nonempty, pieces,
    List.drop_zero, Nat.sub_zero]
  exact later

/-- The loops come to what the splitter without machine numbers does. -/
theorem splitStringA_done (short : Short strIn d) :
    ∃ numFound, splitStringA strIn.length strIn d =
      .done (numFound, SuitText.splitStringA strIn d) := by
  have long := List.length_pos_of_ne_nil short.nonempty
  have size := short.input
  unfold splitStringA
  rw [toInt_of_lt short.delimiter, toInt_of_lt size]
  by_cases empty : strIn = []
  · rw [if_pos (by simp [empty]), SuitText.splitStringA, if_pos (.inr empty)]
    exact ⟨0, rfl⟩
  · obtain ⟨fuel, rounds⟩ := Nat.exists_eq_succ_of_ne_zero (mt List.length_eq_zero_iff.mp empty)
    have split : SuitText.splitStringA strIn d =
        (pieces strIn d.length 0 (positions strIn d strIn.length 0)).filter (· ≠ []) :=
      if_neg (not_or.mpr ⟨short.nonempty, empty⟩)
    rw [if_neg (by omega), split]
    cases found : find d (strIn.drop 0) with
    | none =>
      have alone : positions strIn d strIn.length 0 = [] := by
        rw [rounds, positions, found]
      refine ⟨1, ?_⟩
      simp [findFrom_absent found, alone, pieces, empty]
    | some n =>
      have inside := find_inside short.nonempty found
      have more : positions strIn d strIn.length 0 =
          (0 + n) :: positions strIn d fuel (0 + n + d.length) := by
        rw [rounds, positions, found]
      obtain ⟨all, loop⟩ : ∃ all : Nat,
          collect strIn d strIn.length 0 (toInt (findFrom strIn d 0)) 0 [] =
            .done ((all : Int), ints (positions strIn d strIn.length 0)) :=
        @collect_done _ _ short strIn.length 0 0 0 (Nat.zero_le _) (Nat.le_refl _)
          (Nat.le_refl _) (by omega) []
      refine ⟨all, ?_⟩
      rw [findFrom_found short found] at loop ⊢
      rw [if_neg (by omega), loop, Outcome.done_bind, more]
      simp only [ints_length, cut_done short fuel inside, Outcome.done_bind]

end Loops

/-- What is left of the input when the leftmost occurrences of the delimiter are cut out,
without the empty pieces. -/
structure Splits (strIn strDelimiter : Bytes) (ret : List Bytes) : Prop where
  empty : strDelimiter = [] ∨ strIn = [] → ret = []
  possible : strDelimiter ≠ [] → ∃ all, Cuts strDelimiter strIn all
  left : ∀ all, strDelimiter ≠ [] → Cuts strDelimiter strIn all → ret = all.filter (· ≠ [])

theorem splitStringA_splits (strIn strDelimiter : Bytes) :
    Splits strIn strDelimiter (SuitText.splitStringA strIn strDelimiter) := by
  have cuts := fun nonempty : strDelimiter ≠ [] =>
    pieces_cuts nonempty strIn.length 0 (Nat.le_add_left strIn.length 0)
  rw [List.drop_zero] at cuts
  refine ⟨?_, fun nonempty => ⟨_, cuts nonempty⟩, ?_⟩
  · intro either
    rw [SuitText.splitStringA, if_pos either]
  · intro all nonempty other
    rw [cuts_unique other (cuts nonempty), SuitText.splitStringA]
    split
    · rename_i either
      have nothing : strIn = [] := either.resolve_left nonempty
      simp [nothing, positions, pieces]
    · rfl

/-- SplitStringA ends without a substr out of range. -/
theorem splitStringA_right (strIn strDelimiter : Bytes) (input : strIn.length < 2 ^ 31)
    (delimiter : strDelimiter.length < 2 ^ 31) :
    ∃ turns numFound ret, splitStringA turns strIn strDelimiter = .done (numFound, ret) ∧
      Splits strIn strDelimiter ret := by
  have splits := splitStringA_splits strIn strDelimiter
  by_cases empty : strDelimiter = []
  · refine ⟨0, 0, [], ?_, splits.empty (.inl empty) ▸ splits⟩
    rw [splitStringA, if_pos]
    exact .inl (by rw [empty]; rfl)
  · obtain ⟨numFound, done⟩ := splitStringA_done ⟨input, delimiter, empty⟩
    exact ⟨strIn.length, numFound, _, done, splits⟩

theorem splits_one_comma_comma :
    ∃ turns numFound ret, splitStringA turns [49, 44, 44, 97] [44] = .done (numFound, ret) ∧
      Splits [49, 44, 44, 97] [44] ret :=
  splitStringA_right [49, 44, 44, 97] [44] (by decide) (by decide)

end StringSplits
