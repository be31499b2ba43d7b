import Mathlib.Data.List.Nodup
import Mathlib.Data.List.Perm.Basic
import DreamHeroes.HeroRequests
import DreamHeroes.LabelledRuns

/- The ids of a hero's suits while its client changes them and while it is saved and loaded again.
   A name is saved as it is, and with a colon in it it is read as several suits. -/
namespace SuitIds

open ByteWords DecimalText SuitText GameHero GameServer OrderedMaps HeroRequests LabelledRuns

inductive SuitEvent where
  | request (request : ClientRequest)
  | reload

/- The suits of the hero, none once DelSuit or SaveHero has run over its memory. -/
def step : Option (List MsgSuitData) → SuitEvent → Option (List MsgSuitData)
  | none, _ => none
  | some suits, .request request => suitsAfter suits request
  | some suits, .reload => (suitsSql suits).map parseSuits

/- LoadFromConfig for a hero CreateHero has made. -/
def start (session : SessionPtr) (account : Account) (config : HeroConfig) (generateId : Nat) :
    Option (List MsgSuitData) :=
  some ((DreamHero.new session account .config).loadFromConfig config generateId).1.info.suits

/- The keys of std::map<int, std::string>. -/
def IntKeys (config : HeroConfig) : Prop :=
  ∀ entry ∈ config.suitsName.entries, -2 ^ 31 ≤ entry.1 ∧ entry.1 < 2 ^ 31

instance (config : HeroConfig) : Decidable (IntKeys config) :=
  inferInstanceAs (Decidable (∀ entry ∈ config.suitsName.entries, _))

def ids (suits : List MsgSuitData) : List Int32 := suits.map (·.suitId)

/-- No two suits have the same id. -/
def Distinct : Option (List MsgSuitData) → Prop
  | some suits => (ids suits).Nodup
  | none => True

/-- ModifySuit leaves one suit of the id, the one of the message, and the others as they were. -/
def Replaced : Option (List MsgSuitData) → SuitEvent → Prop
  | some suits, .request (.modifySuit suitData) =>
      ∃ suits', step (some suits) (.request (.modifySuit suitData)) = some suits' ∧
        suits'.filter (·.suitId = suitData.suitId) = [suitData] ∧
        suits'.filter (·.suitId ≠ suitData.suitId) = suits.filter (·.suitId ≠ suitData.suitId)
  | _, _ => True

/-- What stands behind the id and its comma in the entry of a suit. -/
def nameText (suit : MsgSuitData) : Bytes :=
  cStr suit.suitName ++ suit.equipIds.flatMap fun equipId => comma :: decimal equipId.toNat

def fields (text : Bytes) : List Bytes := (text.splitOn comma).filter (· ≠ [])

/-- The id of a suit that a text between colons is: a number, and something behind a comma. -/
def spelledId (text : Bytes) : Option Int32 :=
  match fields text with
  | idText :: _ :: _ => if isIntger idText then some (atoi idText) else none
  | _ => none

/-- More than commas stands before the first colon, so the suit is read under its own id. -/
def keepsId (suit : MsgSuitData) : Bool := fields (((nameText suit).splitOn colon).headD []) ≠ []

/-- The ids that are spelled behind a colon of the name. -/
def hiddenIds (suit : MsgSuitData) : List Int32 :=
  ((nameText suit).splitOn colon).tail.filterMap spelledId

/-- No id is spelled twice, and none that a suit has which is read under its own id. -/
def NoneHidden (suits : List MsgSuitData) : Prop :=
  (suits.flatMap hiddenIds).Nodup ∧
    ∀ suit ∈ suits, keepsId suit = true → suit.suitId ∉ suits.flatMap hiddenIds

instance (suits : List MsgSuitData) : Decidable (NoneHidden suits) :=
  inferInstanceAs (Decidable (_ ∧ _))

/-- The condition on a save that does not overrun its buffer. -/
def Clear : Option (List MsgSuitData) → SuitEvent → Prop
  | some suits, .reload => (∀ suit ∈ suits, (nameEntry suit).length < suitTempSize) →
      NoneHidden suits
  | _, _ => True

variable {suits suits' : List MsgSuitData} {suit suitData : MsgSuitData} {text front : Bytes}

/-- The suits change with the hero's requests. -/
theorem step_request (hero : DreamHero) (request : ClientRequest) :
    step (some hero.info.suits) (.request request) =
      (afterRequest hero request).map (·.info.suits) := by
  rw [afterRequest_eq, Option.map_map]
  exact Option.map_id'.symm

/-- A reload reads the column that SaveHero writes. -/
theorem step_reload {hero : DreamHero} {row : CharacterRow} {rest : List SaveStatement}
    (saved : hero.saveStatements = some (.character row :: rest)) :
    step (some hero.info.suits) .reload = some (parseSuits row.suitsName) := by
  obtain ⟨written, text, same⟩ := Option.map_eq_some_iff.mp saved
  cases same
  rw [step, text]
  rfl

theorem splitOn_front {d : UInt8} (absent : d ∉ front) (text : Bytes) :
    (front ++ text).splitOn d = (text.splitOn d).modifyHead (front ++ ·) := by
  induction front with
  | nil => exact (congrFun List.modifyHead_id _).symm
  | cons b rest ih =>
    simp only [List.mem_cons, not_or] at absent
    rw [List.cons_append, List.splitOn_cons_eq_if_modifyHead, ih absent.2]
    simp [Ne.symm absent.1, List.modifyHead_modifyHead, Function.comp_def]

theorem fields_cons (noComma : comma ∉ front) (filled : front ≠ []) (text : Bytes) :
    fields (front ++ comma :: text) = front :: fields text := by
  simp [fields, List.splitOn_append_cons_self_of_not_mem noComma, filled]

theorem atoi_suitId (id : Int32) : atoi (decimalInt id.toInt) = id := by
  simp [atoi, leadingInt_decimalInt]

/-- A text behind an id and a comma spells that id if it has a field of its own. -/
theorem spelledId_own (id : Int32) (text : Bytes) :
    spelledId (decimalInt id.toInt ++ comma :: text) =
      if fields text ≠ [] then some id else none := by
  obtain ⟨filled, _, noComma, _⟩ := decimalInt_clean id.toInt
  rw [spelledId, fields_cons noComma filled]
  cases fields text with
  | nil => rfl
  | cons name rest => simp [isIntger_suitId, atoi_suitId]

/-- An entry is a text that spells its own id, and the texts behind the colons of the name. -/
theorem suitEntry_ids (suit : MsgSuitData) :
    ((suitEntry suit).splitOn colon).filterMap spelledId =
      (if keepsId suit then [suit.suitId] else []) ++ hiddenIds suit := by
  have entry : suitEntry suit = (decimalInt suit.suitId.toInt ++ [comma]) ++ nameText suit := by
    simp [suitEntry, nameEntry, nameText]
  have noColon : colon ∉ decimalInt suit.suitId.toInt ++ [comma] := by
    have digits := (decimalInt_clean suit.suitId.toInt).2.2.2
    have other : colon ≠ comma := by decide
    simp only [List.mem_append, List.mem_singleton, digits, other, or_self, not_false_eq_true]
  obtain ⟨head, tail, parts⟩ :=
    List.exists_cons_of_ne_nil (List.splitOn_ne_nil colon (nameText suit))
  have own := spelledId_own suit.suitId head
  rw [entry, splitOn_front noColon, keepsId, hiddenIds, parts, List.modifyHead_cons,
    List.append_assoc, List.singleton_append, List.filterMap_cons, own]
  by_cases kept : fields head = [] <;> simp [kept]

/-- Entries with a colon between them are cut where each of them is. -/
theorem splitOn_entries (entries : List Bytes) :
    (([colon].intercalate entries).splitOn colon).filterMap spelledId =
      entries.flatMap fun entry => (entry.splitOn colon).filterMap spelledId := by
  induction entries with
  | nil => rfl
  | cons entry rest ih =>
    cases rest with
    | nil => simp
    | cons next rest =>
      rw [List.intercalate_cons_cons, List.append_assoc, List.singleton_append,
        List.splitOn_append_cons_self, List.filterMap_append, ih]
      rfl

theorem parseSuit_id (noNul : 0 ∉ text) :
    (parseSuit (splitStringA text [comma])).map (·.suitId) = spelledId text := by
  have same : splitStringA text [comma] = fields text := splitStringA_eq text comma
  have inside : ∀ field ∈ fields text, cStr field = field := by
    intro field member
    rw [← same] at member
    exact cStr_eq_self fun nul => noNul ((splitStringA_fields member).2.2 0 nul)
  rw [same, spelledId]
  cases parts : fields text with
  | nil => rfl
  | cons idText rest =>
    cases rest with
    | nil => rfl
    | cons nameField equipTexts =>
      have whole : cStr idText = idText := inside idText (parts ▸ List.mem_cons_self)
      simp only [parseSuit, whole]
      split <;> rfl

theorem entries_no_nul (suits : List MsgSuitData) :
    0 ∉ [colon].intercalate (suits.map suitEntry) := by
  intro nul
  rcases mem_intercalate nul with same | ⟨entry, inside, found⟩
  · cases same
  · obtain ⟨suit, _, rfl⟩ := List.mem_map.mp inside
    simp only [suitEntry, nameEntry, List.mem_append, List.mem_flatMap, List.mem_cons,
      List.not_mem_nil, or_false] at found
    rcases found with ((number | same) | name) | ⟨equipId, _, same | number⟩
    · exact (decimalInt_clean _).2.1 number
    · exact absurd same (by decide)
    · exact cStr_no_nul _ name
    · exact absurd same (by decide)
    · exact (decimal_clean _).1 number

/-- The ids of the suits that are read are those the entries spell. -/
theorem reload_ids (suits : List MsgSuitData) :
    ids (parseSuits ([colon].intercalate (suits.map suitEntry))) =
      suits.flatMap fun suit => (if keepsId suit then [suit.suitId] else []) ++ hiddenIds suit := by
  have noNul := entries_no_nul suits
  have spelled := splitOn_entries (suits.map suitEntry)
  simp only [List.flatMap_map, suitEntry_ids] at spelled
  rw [← spelled, ids, parseSuits, cStr_eq_self noNul, List.map_filterMap, splitStringA_eq,
    List.filterMap_filter]
  apply List.filterMap_congr
  intro text member
  have clean := (splitOn_fields member).2
  rw [parseSuit_id fun nul => noNul (clean 0 nul)]
  by_cases empty : text = []
  · subst empty
    rfl
  · simp [empty]

/-- A reload keeps the ids apart exactly if no id hides in a name that is there already. -/
theorem reload_distinct_iff (distinct : (ids suits).Nodup) :
    (ids (parseSuits ([colon].intercalate (suits.map suitEntry)))).Nodup ↔ NoneHidden suits := by
  have own : (suits.flatMap fun suit => if keepsId suit then [suit.suitId] else []) =
      ids (suits.filter keepsId) := by
    induction suits with
    | nil => rfl
    | cons suit rest ih =>
      have later := ih (List.nodup_cons.mp distinct).2
      by_cases kept : keepsId suit = true <;> simp [kept, later, ids]
  have shorter : (ids (suits.filter keepsId)).Nodup :=
    distinct.sublist (List.filter_sublist.map _)
  have apart := List.flatMap_append_perm suits
    (fun suit => if keepsId suit then [suit.suitId] else []) hiddenIds
  rw [reload_ids, ← apart.nodup_iff, own, List.nodup_append, NoneHidden]
  constructor
  · rintro ⟨_, hidden, disjoint⟩
    refine ⟨hidden, fun suit listed kept member => ?_⟩
    have mine : suit.suitId ∈ ids (suits.filter keepsId) :=
      List.mem_map_of_mem (List.mem_filter.mpr ⟨listed, kept⟩)
    exact disjoint _ mine _ member rfl
  · rintro ⟨hidden, none⟩
    refine ⟨shorter, hidden, ?_⟩
    rintro id mine other member rfl
    obtain ⟨suit, listed, rfl⟩ := List.mem_map.mp mine
    obtain ⟨listed, kept⟩ := List.mem_filter.mp listed
    exact none suit listed kept member

theorem ids_renamed {suitId : Int32} {name : Bytes}
    (renamed : DreamHero.renameSuit suitId name suits = some suits') : ids suits' = ids suits := by
  obtain ⟨front, suit, back, rfl, _, _, rfl⟩ := renameSuit_some renamed
  simp [ids]

theorem ids_replaced (suits : List MsgSuitData) (suitData : MsgSuitData) :
    ids (suits.map fun suit => if suit.suitId = suitData.suitId then suitData else suit) =
      ids suits := by
  rw [ids, List.map_map]
  apply List.map_congr_left
  intro suit _
  by_cases same : suit.suitId = suitData.suitId <;> simp [same]

/-- Every request keeps the ids apart. -/
theorem request_distinct (distinct : (ids suits).Nodup) {request : ClientRequest}
    (after : suitsAfter suits request = some suits') : (ids suits').Nodup := by
  cases request with
  | modifySuitName suitId suitName =>
    cases renamed : DreamHero.renameSuit suitId (cStr suitName) suits with
    | none =>
      simp only [suitsAfter, renamed, Option.getD_none, Option.some.injEq] at after
      exact after ▸ distinct
    | some found =>
      simp only [suitsAfter, renamed, Option.getD_some, Option.some.injEq] at after
      rw [← after, ids_renamed renamed]
      exact distinct
  | modifySuit suitData =>
    simp only [suitsAfter, Option.some.injEq] at after
    subst after
    split
    · rw [ids_replaced]
      exact distinct
    · rename_i absent
      have new : suitData.suitId ∉ ids suits := by
        simpa [ids] using absent
      simp only [ids, List.map_append, List.map_singleton]
      exact List.nodup_append.mpr ⟨distinct, List.nodup_singleton _, by
        rintro id listed _ same rfl
        exact new (List.mem_singleton.mp same ▸ listed)⟩
  | delSuit suitId =>
    obtain ⟨erased, found, rfl⟩ := Option.map_eq_some_iff.mp after
    exact distinct.sublist ((eraseSuits_sublist found).map _)
  | verifyToyCDKey cdKey =>
    cases after
    exact distinct

theorem filter_apart (others : ∀ suit ∈ suits, suit.suitId ≠ suitData.suitId) :
    suits.filter (·.suitId = suitData.suitId) = [] ∧
      suits.filter (·.suitId ≠ suitData.suitId) = suits := by
  constructor
  · rw [List.filter_eq_nil_iff]
    simpa using others
  · rw [List.filter_eq_self]
    simpa using others

theorem replaced_apart (others : ∀ suit ∈ suits, suit.suitId ≠ suitData.suitId) :
    suits.map (fun suit => if suit.suitId = suitData.suitId then suitData else suit) = suits := by
  induction suits with
  | nil => rfl
  | cons suit rest ih =>
    obtain ⟨first, later⟩ := List.forall_mem_cons.mp others
    rw [List.map_cons, if_neg first, ih later]

/-- ModifySuit does what it is to do while the ids are apart. -/
theorem modifySuit_replaces (distinct : (ids suits).Nodup) (suitData : MsgSuitData) :
    Replaced (some suits) (.request (.modifySuit suitData)) := by
  refine ⟨_, rfl, ?_⟩
  split
  · rename_i present
    simp only [List.any_eq_true, decide_eq_true_eq] at present
    obtain ⟨old, listed, same⟩ := present
    obtain ⟨front, back, rfl⟩ := List.append_of_mem listed
    simp only [ids, List.map_append, List.map_cons, List.nodup_middle, List.nodup_cons, same,
      List.mem_append, not_or, List.mem_map, not_exists, not_and] at distinct
    obtain ⟨⟨noFront, noBack⟩, _⟩ := distinct
    obtain ⟨noneFront, wholeFront⟩ := filter_apart noFront
    obtain ⟨noneBack, wholeBack⟩ := filter_apart noBack
    rw [List.map_append, List.map_cons, if_pos same, replaced_apart noFront, replaced_apart noBack]
    simp only [List.filter_append, List.filter_cons, noneFront, noneBack, wholeFront, wholeBack]
    simp [same]
  · rename_i absent
    have others : ∀ suit ∈ suits, suit.suitId ≠ suitData.suitId := by
      simpa using absent
    obtain ⟨none, whole⟩ := filter_apart others
    simp only [List.filter_append, none, whole]
    simp

/-- The suits of the config have the keys of a map. -/
theorem start_distinct (session : SessionPtr) (account : Account) {config : HeroConfig}
    (keys : IntKeys config) (generateId : Nat) :
    Distinct (start session account config generateId) := by
  simp only [start, Distinct, DreamHero.loadFromConfig, DreamHero.new, List.nil_append, ids,
    List.map_map]
  apply List.pairwise_map.mpr
  apply config.suitsName.sorted.imp_of_mem
  intro first later firstListed laterListed before same
  have equal := congrArg Int32.toInt same
  have firstKey := keys first firstListed
  have laterKey := keys later laterListed
  simp only [Function.comp_apply, toInt_ofInt firstKey.1 firstKey.2,
    toInt_ofInt laterKey.1 laterKey.2] at equal
  omega

theorem step_distinct_iff {state : Option (List MsgSuitData)} (distinct : Distinct state)
    (event : SuitEvent) : Distinct (step state event) ↔ Clear state event := by
  cases state with
  | none => exact iff_of_true trivial trivial
  | some suits =>
    cases event with
    | request request =>
      refine iff_of_true ?_ trivial
      cases after : suitsAfter suits request with
      | none =>
        rw [step, after]
        trivial
      | some suits' =>
        rw [step, after]
        exact request_distinct distinct after
    | reload =>
      by_cases fits : ∀ suit ∈ suits, (nameEntry suit).length < suitTempSize
      · have text : step (some suits) .reload =
            some (parseSuits ([colon].intercalate (suits.map suitEntry))) := by
          rw [step, suitsSql, if_pos fits]
          rfl
        rw [text, Distinct, reload_distinct_iff distinct]
        exact ⟨fun none _ => none, fun clear => clear fits⟩
      · have text : step (some suits) .reload = none := by
          rw [step, suitsSql, if_neg fits]
          rfl
        rw [text]
        exact iff_of_true trivial fun fit => absurd fit fits

theorem replaced_step {state : Option (List MsgSuitData)} (distinct : Distinct state)
    (event : SuitEvent) : Replaced state event := by
  cases state with
  | none => trivial
  | some suits =>
    cases event with
    | reload => trivial
    | request request =>
      cases request with
      | modifySuit suitData => exact modifySuit_replaces distinct suitData
      | _ => trivial

/-- The ids of a hero's suits are pairwise distinct, and ModifySuit changes the one suit it is to
    change, at every moment of a run exactly if no save finds an id hidden in a name that another
    suit has or another name hides. -/
theorem ids_distinct_iff (session : SessionPtr) (account : Account) (config : HeroConfig)
    (keys : IntKeys config) (generateId : Nat) (events : List SuitEvent) :
    (EveryState step Distinct (start session account config generateId) events ∧
        EveryStep step Replaced (start session account config generateId) events) ↔
      EveryStep step Clear (start session account config generateId) events := by
  have begins := start_distinct session account keys generateId
  have apart : EveryState step Distinct (start session account config generateId) events ↔
      EveryStep step Clear (start session account config generateId) events := by
    apply everyState_iff_everyStep Distinct (fun _ => True)
    · exact fun _ distinct => distinct
    · exact fun state event _ distinct clear => (step_distinct_iff distinct event).mpr clear
    · exact fun state event _ distinct next => (step_distinct_iff distinct event).mp next
    · exact begins
    · exact fun _ _ => trivial
  rw [apart]
  apply and_iff_left_of_imp
  intro clear
  refine everyStep_of_invariant ?_ ?_ begins clear
  · exact fun state event distinct clear => (step_distinct_iff distinct event).mpr clear
  · exact fun state event distinct _ => replaced_step distinct event

def oneSuit : HeroConfig := ⟨0, 0, 1, [], OrderedMap.empty.insert 1 [97]⟩

theorem oneSuit_keys : IntKeys oneSuit := by
  decide

/-- A name without a colon in it comes back under its own id. -/
theorem ids_distinct_plain_name :
    EveryState step Distinct (start 0 0 oneSuit 0)
        [.request (.modifySuitName 1 [98]), .reload, .request (.modifySuit ⟨2, [99], []⟩)] ∧
      EveryStep step Replaced (start 0 0 oneSuit 0)
        [.request (.modifySuitName 1 [98]), .reload, .request (.modifySuit ⟨2, [99], []⟩)] := by
  apply (ids_distinct_iff 0 0 oneSuit oneSuit_keys 0 _).mpr
  refine ⟨trivial, fun _ => ?_, trivial, trivial⟩
  decide +kernel

/-- The client renames its suit 1 to `a:1,b` and comes back to two suits of id 1. ModifySuit then
    makes both of them the suit of the message. -/
theorem name_becomes_a_suit :
    let events : List SuitEvent := [.request (.modifySuitName 1 [97, 58, 49, 44, 98]), .reload,
      .request (.modifySuit ⟨1, [99], []⟩)]
    run step (start 0 0 oneSuit 0) events = some [⟨1, [99], []⟩, ⟨1, [99], []⟩] ∧
      ¬ (EveryState step Distinct (start 0 0 oneSuit 0) events ∧
        EveryStep step Replaced (start 0 0 oneSuit 0) events) := by
  intro events
  have last : run step (start 0 0 oneSuit 0) events = some [⟨1, [99], []⟩, ⟨1, [99], []⟩] := by
    decide +kernel
  refine ⟨last, fun both => ?_⟩
  have distinct := everyState_last both.1
  rw [last] at distinct
  have twice : ¬ (ids [⟨1, [99], []⟩, ⟨1, [99], []⟩]).Nodup := by decide
  exact twice distinct

end SuitIds
