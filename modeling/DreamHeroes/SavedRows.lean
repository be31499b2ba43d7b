import DreamHeroes.GameHero

/- The batches of rows in which SaveHero sends the equips and the toys of a hero. -/
namespace SavedRows

open GameHero OrderedMaps

/- What the loops append to their text: the head of a statement, a comma or a row. -/
inductive Piece (Row : Type) where
  | head
  | comma
  | row (row : Row)
  deriving DecidableEq, Repr

variable {Row : Type}

/-- A loop over the rows, the counter and the text of the statement so far. The counter starts
again at limit, and the text only if the loop clears it. -/
def saveRows (limit : Nat) (clears : Bool) : List Row → Nat → List (Piece Row) →
    List (List (Piece Row))
  | [], _, sql => if sql = [] then [] else [sql]
  | row :: rest, count, sql =>
      let full : Bool := limit ≤ count
      let next := if full then 0 else count
      let kept := if full && clears then [] else sql
      let later := saveRows limit clears rest (next + 1)
        (kept ++ [if next = 0 then .head else .comma, .row row])
      if full then sql :: later else later

/-- The statements for character_equip, of at most 20 rows as it was meant. -/
def equipTexts (hero : DreamHero) : List (List (Piece MsgEquipData)) :=
  saveRows 20 false (hero.heroEquips.entries.map (·.2)) 0 []

/-- The statements for character_toy. The test for more than 20 rows is one for 21. -/
def toyTexts (hero : DreamHero) : List (List (Piece MsgToyData)) :=
  saveRows 21 true (hero.heroToys.entries.map (·.2)) 0 []

/-- Rows with commas between them. -/
def tuples : List Row → List (Piece Row)
  | [] => []
  | row :: rest => .row row :: rest.flatMap fun row => [.comma, .row row]

def statement (rows : List Row) : List (Piece Row) := .head :: tuples rows

/-- Every statement is one head and a list of rows that is not empty, and together they hold
the rows, each once and in order. -/
def Whole (rows : List Row) (texts : List (List (Piece Row))) : Prop :=
  ∃ batches : List (List Row), texts = batches.map statement ∧
    (∀ batch ∈ batches, batch ≠ []) ∧ batches.flatten = rows

structure SavedWhole (hero : DreamHero) : Prop where
  equips : Whole (hero.heroEquips.entries.map (·.2)) (equipTexts hero)
  toys : Whole (hero.heroToys.entries.map (·.2)) (toyTexts hero)

variable {limit count : Nat} {clears : Bool} {rows pending : List Row} {row : Row}
  {sql text : List (Piece Row)}

theorem statement_append (some : pending ≠ []) (row : Row) :
    statement (pending ++ [row]) = statement pending ++ [.comma, .row row] := by
  cases pending with
  | nil => exact absurd rfl some
  | cons first rest => simp [statement, tuples]

theorem saveRows_start (positive : 0 < limit) (row : Row) (rest : List Row) :
    saveRows limit clears (row :: rest) 0 [] = saveRows limit clears rest 1 (statement [row]) := by
  have empty : ¬ limit ≤ 0 := by omega
  simp [saveRows, empty, statement, tuples]

/-- A row that fits into the statement that is being built. -/
theorem saveRows_more (some : pending ≠ []) (room : pending.length < limit) (row : Row)
    (rest : List Row) :
    saveRows limit clears (row :: rest) pending.length (statement pending) =
      saveRows limit clears rest (pending ++ [row]).length (statement (pending ++ [row])) := by
  have notFull : ¬ limit ≤ pending.length := by omega
  have counted : pending.length ≠ 0 := by simpa using some
  rw [statement_append some]
  simp [saveRows, notFull, counted]

/-- A loop that clears its text sends whole statements. -/
theorem whole_pending (rows : List Row) (some : pending ≠ []) :
    Whole (pending ++ rows) (saveRows limit true rows pending.length (statement pending)) := by
  induction rows generalizing pending with
  | nil =>
    refine ⟨[pending], ?_, ?_, by simp⟩
    · simp [saveRows, statement]
    · intro batch member
      rw [List.mem_singleton.mp member]
      exact some
  | cons row rest ih =>
    by_cases room : pending.length < limit
    · rw [saveRows_more some room]
      have longer := @ih (pending ++ [row]) (by simp)
      simpa using longer
    · have full : limit ≤ pending.length := Nat.not_lt.mp room
      obtain ⟨batches, texts, inhabited, all⟩ := @ih [row] (by simp)
      refine ⟨pending :: batches, ?_, ?_, ?_⟩
      · rw [List.map_cons, ← texts]
        simp [saveRows, full, statement, tuples]
      · intro batch member
        rcases List.mem_cons.mp member with rfl | later
        · exact some
        · exact inhabited batch later
      · rw [List.flatten_cons, all]
        rfl

theorem whole_clears (positive : 0 < limit) (rows : List Row) :
    Whole rows (saveRows limit true rows 0 []) := by
  cases rows with
  | nil => exact ⟨[], rfl, by simp, rfl⟩
  | cons row rest =>
    rw [saveRows_start positive]
    exact whole_pending rest (List.cons_ne_nil row [])

/-- As long as the rows fit into one statement the text need not be cleared. -/
theorem one_pending (some : pending ≠ []) (few : pending.length + rows.length ≤ limit) :
    saveRows limit clears rows pending.length (statement pending) =
      [statement (pending ++ rows)] := by
  induction rows generalizing pending with
  | nil => simp [saveRows, statement]
  | cons row rest ih =>
    simp only [List.length_cons] at few
    rw [saveRows_more some (by omega), ih (by simp) (by simp; omega)]
    simp

theorem whole_few (few : rows.length ≤ limit) : Whole rows (saveRows limit clears rows 0 []) := by
  cases rows with
  | nil => exact ⟨[], rfl, by simp, rfl⟩
  | cons row rest =>
    simp only [List.length_cons] at few
    have one := @one_pending _ limit clears rest [row] (by simp) (by simp; omega)
    refine ⟨[row :: rest], ?_, by simp, by simp⟩
    rw [saveRows_start (by omega)]
    exact one

/- A loop that does not clear its text writes a second head behind its first batch. -/

def isHead : Piece Row → Bool
  | .head => true
  | _ => false

theorem statement_heads (rows : List Row) : (statement rows).countP isHead = 1 := by
  have none : ∀ piece ∈ tuples rows, ¬ isHead piece = true := by
    intro piece member
    cases rows with
    | nil => cases member
    | cons row rest =>
      simp only [tuples, List.mem_cons, List.mem_flatMap, List.not_mem_nil, or_false] at member
      rcases member with rfl | ⟨_, _, rfl | rfl⟩
      · simp [isHead]
      · simp [isHead]
      · simp [isHead]
  rw [statement, List.countP_cons_of_pos rfl, List.countP_eq_zero.mpr none]

/-- What is in the text stays in front of the last statement. -/
theorem text_sent (rows : List Row) (count : Nat) (some : sql ≠ []) :
    ∃ text ∈ saveRows limit false rows count sql, sql <+: text := by
  induction rows generalizing count sql with
  | nil => exact ⟨sql, by simp [saveRows, some], List.prefix_refl sql⟩
  | cons row rest ih =>
    simp only [saveRows, Bool.and_false, Bool.false_eq_true, if_false]
    by_cases full : limit ≤ count
    · exact ⟨sql, by simp [full], List.prefix_refl sql⟩
    · obtain ⟨text, member, front⟩ := @ih
        (sql ++ [if count = 0 then Piece.head else .comma, .row row]) (count + 1) (by simp)
      refine ⟨text, by simpa [full] using member, ?_⟩
      exact (List.prefix_append _ _).trans front

theorem second_head (heads : 0 < sql.countP isHead)
    (many : limit < count + rows.length) (counted : count ≤ limit) :
    ∃ text ∈ saveRows limit false rows count sql, 1 < text.countP isHead := by
  induction rows generalizing count sql with
  | nil =>
    simp only [List.length_nil] at many
    omega
  | cons row rest ih =>
    simp only [saveRows, Bool.and_false, Bool.false_eq_true, if_false]
    by_cases full : limit ≤ count
    · obtain ⟨text, member, front⟩ := @text_sent _ limit (sql ++ [.head, .row row]) rest 1 (by simp)
      refine ⟨text, by simp [full, member], ?_⟩
      have more : (sql ++ [Piece.head, .row row]).countP isHead ≤ text.countP isHead :=
        front.sublist.countP_le
      have both : (sql ++ [Piece.head, .row row]).countP isHead = sql.countP isHead + 1 :=
        List.countP_append
      omega
    · have later := @ih (count + 1)
        (sql ++ [if count = 0 then Piece.head else .comma, .row row])
        (by rw [List.countP_append]; omega) (by simp at many; omega) (by omega)
      simpa [full] using later

theorem not_whole_many (positive : 0 < limit) (many : limit < rows.length) :
    ¬ Whole rows (saveRows limit false rows 0 []) := by
  cases rows with
  | nil => simp at many
  | cons row rest =>
    rw [saveRows_start positive]
    rintro ⟨batches, texts, _⟩
    obtain ⟨text, sent, heads⟩ := @second_head _ limit 1 rest (statement [row])
      (by rw [statement_heads]; decide) (by simp at many; omega) positive
    rw [texts] at sent
    obtain ⟨batch, _, rfl⟩ := List.mem_map.mp sent
    rw [statement_heads] at heads
    exact absurd heads (by decide)

/- The statements of SaveHero. -/

def equipPiece (account : Account) : Piece MsgEquipData → EquipPiece
  | .head => .head
  | .comma => .comma
  | .row equip => .row equip account

/-- The rows of a text. -/
def rowsOf : List (Piece Row) → List Row
  | [] => []
  | .row row :: rest => row :: rowsOf rest
  | .head :: rest => rowsOf rest
  | .comma :: rest => rowsOf rest

theorem rowsOf_append (front back : List (Piece Row)) :
    rowsOf (front ++ back) = rowsOf front ++ rowsOf back := by
  induction front with
  | nil => rfl
  | cons piece rest ih => cases piece <;> simp [rowsOf, ih]

theorem equipStatements_texts (account : Account) (equips : List MsgEquipData) (count : Nat)
    (sql : List (Piece MsgEquipData)) :
    DreamHero.equipStatements account equips count (sql.map (equipPiece account)) =
      (saveRows 20 false equips count sql).map fun text =>
        .equips (text.map (equipPiece account)) := by
  induction equips generalizing count sql with
  | nil =>
    by_cases empty : sql = []
    · simp [DreamHero.equipStatements, saveRows, empty]
    · simp [DreamHero.equipStatements, saveRows, empty]
  | cons equip rest ih =>
    have piece : ∀ n : Nat, sql.map (equipPiece account) ++
        [if n = 0 then EquipPiece.head else .comma, .row equip account] =
        (sql ++ [if n = 0 then Piece.head else .comma, .row equip]).map (equipPiece account) := by
      intro n
      by_cases zero : n = 0
      · simp [equipPiece, zero]
      · simp [equipPiece, zero]
    simp only [DreamHero.equipStatements, saveRows, piece, ih, Bool.and_false, Bool.false_eq_true,
      if_false, decide_eq_true_eq]
    by_cases full : 20 ≤ count
    · simp [full]
    · simp [full]

theorem toyStatements_texts (account : Account) (toys : List MsgToyData) (count : Nat)
    (sql : List (Piece MsgToyData)) (inhabited : sql ≠ [] → rowsOf sql ≠ []) :
    DreamHero.toyStatements account toys count (rowsOf sql) =
      (saveRows 21 true toys count sql).map fun text => .toys account (rowsOf text) := by
  induction toys generalizing count sql with
  | nil =>
    by_cases empty : sql = []
    · simp [DreamHero.toyStatements, saveRows, empty, rowsOf]
    · simp [DreamHero.toyStatements, saveRows, empty, inhabited empty]
  | cons toy rest ih =>
    have piece : ∀ n : Nat, rowsOf [if n = 0 then Piece.head else .comma, .row toy] = [toy] := by
      intro n
      by_cases zero : n = 0
      · simp [rowsOf, zero]
      · simp [rowsOf, zero]
    have next := fun n sql =>
      ih n (sql ++ [if n - 1 = 0 then Piece.head else .comma, .row toy]) (by
        intro _
        rw [rowsOf_append, piece]
        simp)
    by_cases full : 20 < count
    · have cleared := next 1 []
      simp only [List.nil_append, Nat.sub_self, if_true, rowsOf] at cleared
      simp [DreamHero.toyStatements, saveRows, full, Nat.succ_le_of_lt full, cleared]
    · have few : ¬ 21 ≤ count := full
      have longer := next (count + 1) sql
      simp only [rowsOf_append, piece, Nat.add_sub_cancel] at longer
      simp [DreamHero.toyStatements, saveRows, full, few, longer]

/-- The statements that SaveHero sends behind the one for the character. -/
theorem saveStatements_texts (hero : DreamHero) :
    hero.saveStatements = (SuitText.suitsSql hero.info.suits).map fun suits =>
      .character ⟨hero.info.account, hero.info.level, SuitText.cStr hero.info.name,
          hero.info.actionPoint, hero.info.diamand, hero.info.gold, suits⟩ ::
        ((equipTexts hero).map (fun text => .equips (text.map (equipPiece hero.info.account))) ++
          (toyTexts hero).map fun text => .toys hero.account (rowsOf text)) := by
  have equips := equipStatements_texts hero.info.account (hero.heroEquips.entries.map (·.2)) 0 []
  have toys := toyStatements_texts hero.account (hero.heroToys.entries.map (·.2)) 0 []
    (fun some => absurd rfl some)
  rw [DreamHero.saveStatements, equipTexts, toyTexts, ← equips, ← toys]
  rfl

/-- The batches are whole exactly if there are not more equips than fit into one. -/
theorem saved_whole_iff (hero : DreamHero) :
    SavedWhole hero ↔ hero.heroEquips.entries.length ≤ 20 := by
  constructor
  · intro saved
    by_contra many
    refine not_whole_many (by decide) ?_ saved.equips
    rw [List.length_map]
    exact Nat.lt_of_not_le many
  · intro few
    constructor
    · exact whole_few (by rw [List.length_map]; exact few)
    · exact whole_clears (by decide) _

/-- A hero with that many equips. -/
def equipped (n : Nat) : DreamHero :=
  { DreamHero.new 0 1 .database with
    heroEquips := (List.range n).foldl (fun m id => m.insert id ⟨id, 0, 0, false, 0, 1⟩) .empty }

/-- The 21st equip is saved behind a second head. -/
theorem equips_not_whole : ¬ SavedWhole (equipped 21) := by
  intro saved
  refine not_whole_many (by decide) ?_ saved.equips
  decide +kernel

end SavedRows
