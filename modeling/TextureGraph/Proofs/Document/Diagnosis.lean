import TextureGraph.Proofs.Document.Arrangement

/-!
# Why a document cannot be ordered

The first name that occurs again is reported, whatever else is wrong. Where names differ it is
the first input, by texture and then by slot, that names no texture. Otherwise it is all
textures from which a cycle is reached: those are never placed, and all others are.
-/

namespace TextureGraph

namespace Dictionary

variable {α : Type} {dictionary : Dictionary α}

theorem mem_sorted_iff {entry : String × α} :
    entry ∈ dictionary.sorted ↔ entry ∈ dictionary.entries :=
  (List.mergeSort_perm _ _).mem_iff

theorem pairwise_sorted (dictionary : Dictionary α) :
    dictionary.sorted.Pairwise fun first second => first.1 ≤ second.1 := by
  have transitive (first second third : String × α) :
      decide (first.1 ≤ second.1) → decide (second.1 ≤ third.1) →
        decide (first.1 ≤ third.1) := by
    simp only [decide_eq_true_eq]
    exact String.le_trans
  have total (first second : String × α) :
      (decide (first.1 ≤ second.1) || decide (second.1 ≤ first.1)) := by
    simp only [Bool.or_eq_true, decide_eq_true_eq]
    exact String.le_total first.1 second.1
  have ordered := List.pairwise_mergeSort transitive total dictionary.entries
  unfold sorted
  simpa only [decide_eq_true_eq] using ordered

theorem value_unique {name : String} {first second : α}
    (firstGiven : (name, first) ∈ dictionary.entries)
    (secondGiven : (name, second) ∈ dictionary.entries) : first = second := by
  have same := List.inj_on_of_nodup_map dictionary.nodup firstGiven secondGiven rfl
  exact congrArg Prod.snd same

end Dictionary

namespace Document

variable {document : Document}

/-! ## Names that occur again -/

theorem firstRepeated?_eq_some_iff {seen names : List String} {name : String} :
    firstRepeated? seen names = some name ↔ ∃ before after, names = before ++ name :: after ∧
      before.Nodup ∧ (∀ other ∈ before, other ∉ seen) ∧ (name ∈ seen ∨ name ∈ before) := by
  induction names generalizing seen with
  | nil => simp [firstRepeated?]
  | cons head rest ih =>
      rw [firstRepeated?]
      by_cases old : head ∈ seen
      · rw [if_pos old, Option.some.injEq]
        constructor
        · rintro rfl
          exact ⟨[], rest, rfl, List.nodup_nil, List.forall_mem_nil _, .inl old⟩
        · rintro ⟨before, after, split, _, fresh, _⟩
          cases before with
          | nil => exact (List.cons.inj split).1
          | cons first _ =>
              cases (List.cons.inj split).1
              exact absurd old (fresh _ List.mem_cons_self)
      · rw [if_neg old, ih]
        constructor
        · rintro ⟨before, after, rfl, nodup, fresh, repeated⟩
          have head_not_mem : head ∉ before := fun member =>
            fresh head member List.mem_cons_self
          refine ⟨head :: before, after, rfl, List.nodup_cons.mpr ⟨head_not_mem, nodup⟩, ?_, ?_⟩
          · intro other member
            rcases List.mem_cons.mp member with rfl | later
            · exact old
            · exact fun seen => fresh other later (List.mem_cons_of_mem _ seen)
          · simp only [List.mem_cons] at repeated ⊢
            tauto
        · rintro ⟨before, after, split, nodup, fresh, repeated⟩
          cases before with
          | nil =>
              cases (List.cons.inj split).1
              rcases repeated with seen | none
              · exact absurd seen old
              · cases none
          | cons first before =>
              obtain ⟨rfl, rfl⟩ := List.cons.inj split
              obtain ⟨first_not_mem, nodup⟩ := List.nodup_cons.mp nodup
              refine ⟨before, after, rfl, nodup, ?_, ?_⟩
              · intro other member seen
                rcases List.mem_cons.mp seen with rfl | seen
                · exact first_not_mem member
                · exact fresh other (List.mem_cons_of_mem _ member) seen
              · simp only [List.mem_cons] at repeated ⊢
                tauto

/-- What is reported is the name of the first texture that has the name of an earlier one. -/
theorem firstRepeated?_names_eq_some_iff {name : String} :
    firstRepeated? [] document.names = some name ↔
      ∃ before entry after, document.textures = before ++ entry :: after ∧
        (before.map (·.name)).Nodup ∧ entry.name ∈ before.map (·.name) ∧ entry.name = name := by
  rw [firstRepeated?_eq_some_iff]
  constructor
  · rintro ⟨before, after, names_eq, first, _, none | repeated⟩
    · cases none
    · rcases List.map_eq_append_iff.mp names_eq with ⟨before, rest, textures_eq, rfl, rest_eq⟩
      rcases List.map_eq_cons_iff.mp rest_eq with ⟨entry, after, rfl, rfl, rfl⟩
      exact ⟨before, entry, after, textures_eq, first, repeated, rfl⟩
  · rintro ⟨before, entry, after, textures_eq, first, repeated, rfl⟩
    refine ⟨before.map (·.name), after.map (·.name), ?_, first, nofun, .inr repeated⟩
    rw [names, textures_eq, List.map_append, List.map_cons]

/-! ## Inputs that name no texture -/

/-- The least input of a texture, by slot and then by source, that names no texture. -/
structure LeastMissing (document : Document) (entry : TextureEntry) (slot source : String) :
    Prop where
  given : (slot, source) ∈ entry.inputs.entries
  missing : source ∉ document.names
  least : ∀ otherSlot otherSource, (otherSlot, otherSource) ∈ entry.inputs.entries →
    otherSource ∉ document.names → slot < otherSlot ∨ slot = otherSlot ∧ source ≤ otherSource

theorem LeastMissing.unique {entry : TextureEntry} {slot source otherSlot otherSource : String}
    (first : document.LeastMissing entry slot source)
    (second : document.LeastMissing entry otherSlot otherSource) :
    slot = otherSlot ∧ source = otherSource := by
  have slot_eq : slot = otherSlot := by
    rcases first.least _ _ second.given second.missing with before | ⟨same, _⟩
    · rcases second.least _ _ first.given first.missing with after | ⟨same, _⟩
      · exact absurd after (String.lt_asymm before)
      · exact same.symm
    · exact same
  subst slot_eq
  exact ⟨rfl, Dictionary.value_unique first.given second.given⟩

theorem missingSource?_eq_some_iff {entry : TextureEntry} {error : OrderError} :
    document.missingSource? entry = some error ↔
      ∃ slot source, document.LeastMissing entry slot source ∧
        error = .missingSource entry.name slot source := by
  have reported {error : OrderError} (found : document.missingSource? entry = some error) :
      ∃ slot source, document.LeastMissing entry slot source ∧
        error = .missingSource entry.name slot source := by
    rcases Option.map_eq_some_iff.mp found with ⟨⟨slot, source⟩, first, rfl⟩
    obtain ⟨unknown, before, after, sorted_eq, known⟩ := List.find?_eq_some_iff_append.mp first
    have listed : (slot, source) ∈ entry.inputs.entries := by
      rw [← Dictionary.mem_sorted_iff, sorted_eq]
      exact List.mem_append_right _ List.mem_cons_self
    have ordered := entry.inputs.pairwise_sorted
    rw [sorted_eq, List.pairwise_append, List.pairwise_cons] at ordered
    refine ⟨slot, source, ⟨listed, by simpa using unknown, ?_⟩, rfl⟩
    intro otherSlot otherSource given missing
    rw [← Dictionary.mem_sorted_iff, sorted_eq, List.mem_append, List.mem_cons] at given
    rcases given with early | same | late
    · have found := known _ early
      simp [missing] at found
    · cases same
      exact .inr ⟨rfl, String.le_refl _⟩
    · have slot_le : slot ≤ otherSlot := ordered.2.1.1 _ late
      by_cases before : slot < otherSlot
      · exact .inl before
      · obtain rfl := String.le_antisymm slot_le (String.not_lt.mp before)
        have again : (slot, otherSource) ∈ entry.inputs.entries := by
          rw [← Dictionary.mem_sorted_iff, sorted_eq]
          exact List.mem_append_right _ (List.mem_cons_of_mem _ late)
        obtain rfl := Dictionary.value_unique listed again
        exact .inr ⟨rfl, String.le_refl _⟩
  constructor
  · exact reported
  · rintro ⟨slot, source, leastMissing, rfl⟩
    cases found : document.missingSource? entry with
    | none =>
        have known := missingSource?_eq_none_iff.mp found source
          (List.mem_map.mpr ⟨_, leastMissing.given, rfl⟩)
        exact absurd known leastMissing.missing
    | some error =>
        rcases reported found with ⟨otherSlot, otherSource, other, rfl⟩
        obtain ⟨rfl, rfl⟩ := leastMissing.unique other
        rfl

/-! ## Textures that depend on a cycle -/

/-- A cycle is reached from a name by following inputs. -/
def DependsOnCycle (document : Document) (name : String) : Prop :=
  ∃ source, Relation.ReflTransGen document.Feeds source name ∧
    Relation.TransGen document.Feeds source source

/-- Names of the textures that are never placed, as the document lists them. -/
def unplaced (document : Document) : List String :=
  (document.textures.zipIdx.filter fun (_, i) => !document.placement.contains i).map (·.1.name)

/-- What still waits in the end is what is never placed. -/
theorem stillWaiting_placeAll (document : Document) :
    document.stillWaiting document.placeAll.1 = document.unplaced := by
  rw [placeAll_eq, stillWaiting, unplaced]
  congr 1
  apply List.filter_congr
  rintro ⟨entry, i⟩ member
  have found := List.mk_mem_zipIdx_iff_getElem?.mp member
  have inside : i < document.sourceIndices.length := by
    rw [length_sourceIndices]
    exact (List.getElem?_eq_some_iff.mp found).1
  exact waits_eq_not_placed document.placing_placement inside

theorem idxOf_name (nodup : document.names.Nodup) {entry : TextureEntry} {i : Nat}
    (found : document.textures[i]? = some entry) : document.names.idxOf entry.name = i := by
  rcases List.getElem?_eq_some_iff.mp found with ⟨inside, rfl⟩
  have inNames : i < document.names.length := by
    rwa [names, List.length_map]
  have name_eq : document.names[i] = document.textures[i].name := List.getElem_map _
  rw [← name_eq, nodup.idxOf_getElem]

theorem mem_inputsAt_of_feeds (nodup : document.names.Nodup) (known : document.SourcesKnown)
    {source name : String} (feeds : document.Feeds source name) :
    document.names.idxOf source ∈ document.inputsAt (document.names.idxOf name) := by
  have listed := known.mem_names feeds
  rcases feeds with ⟨entry, member, rfl, given⟩
  rcases List.mem_iff_getElem?.mp member with ⟨i, found⟩
  rw [idxOf_name nodup found, mem_inputsAt_iff nodup found]
  refine ⟨source, given, ?_⟩
  rw [List.getElem?_eq_getElem (List.idxOf_lt_length_of_mem listed), List.getElem_idxOf]

/-- What is placed comes behind all that it depends on. -/
theorem idxOf_lt_of_transGen_feeds (nodup : document.names.Nodup) (known : document.SourcesKnown)
    {source name : String} (path : Relation.TransGen document.Feeds source name)
    (placed : document.names.idxOf name ∈ document.placement) :
    document.names.idxOf source ∈ document.placement ∧
      document.placement.idxOf (document.names.idxOf source) <
        document.placement.idxOf (document.names.idxOf name) := by
  induction path with
  | single feeds => exact idxOf_lt_of_mem_placement placed (mem_inputsAt_of_feeds nodup known feeds)
  | tail _ feeds ih =>
      obtain ⟨middlePlaced, middle_lt⟩ :=
        idxOf_lt_of_mem_placement placed (mem_inputsAt_of_feeds nodup known feeds)
      obtain ⟨sourcePlaced, source_lt⟩ := ih middlePlaced
      exact ⟨sourcePlaced, Nat.lt_trans source_lt middle_lt⟩

/-- A texture is placed unless it depends on a cycle. -/
theorem mem_placement_iff (nodup : document.names.Nodup) (known : document.SourcesKnown)
    {entry : TextureEntry} {i : Nat} (found : document.textures[i]? = some entry) :
    i ∈ document.placement ↔ ¬ document.DependsOnCycle entry.name := by
  constructor
  · rintro placed ⟨source, path, cycle⟩
    rw [← idxOf_name nodup found] at placed
    have sourcePlaced : document.names.idxOf source ∈ document.placement := by
      rcases Relation.reflTransGen_iff_eq_or_transGen.mp path with rfl | path
      · exact placed
      · exact (idxOf_lt_of_transGen_feeds nodup known path placed).1
    exact Nat.lt_irrefl _ (idxOf_lt_of_transGen_feeds nodup known cycle sourcePlaced).2
  · intro free
    -- By the number of feeders: what feeds a texture that no cycle feeds has fewer.
    induction count_eq : (document.feeders entry.name).card using Nat.strongRecOn
      generalizing entry i with
    | ind count ih =>
        subst count_eq
        rw [mem_placement_iff_supplied]
        have inside := (List.getElem?_eq_some_iff.mp found).1
        refine ⟨_, sourceIndices_eq_inputsAt inside, fun input member => ?_⟩
        rcases (mem_inputsAt_iff nodup found).mp member with ⟨source, given, named⟩
        rw [names, List.getElem?_map] at named
        rcases Option.map_eq_some_iff.mp named with ⟨feeder, feederFound, rfl⟩
        have feeds : document.Feeds feeder.name entry.name :=
          ⟨entry, List.mem_of_getElem? found, rfl, given⟩
        have uncyclic : ¬ Relation.TransGen document.Feeds feeder.name feeder.name := fun cycle =>
          free ⟨feeder.name, .single feeds, cycle⟩
        have feederFree : ¬ document.DependsOnCycle feeder.name := by
          rintro ⟨source, path, cycle⟩
          exact free ⟨source, path.tail feeds, cycle⟩
        exact ih _ (card_feeders_lt known feeds uncyclic) feederFound feederFree rfl

open Classical in
theorem unplaced_eq (nodup : document.names.Nodup) (known : document.SourcesKnown) :
    document.unplaced = document.names.filter (document.DependsOnCycle ·) := by
  have textures_eq : document.textures = document.textures.zipIdx.map Prod.fst :=
    (List.zipIdx_map_fst 0 _).symm
  have names_eq : document.names = document.textures.zipIdx.map (·.1.name) := by
    rw [names]
    conv_lhs => rw [textures_eq]
    rw [List.map_map]
    rfl
  rw [names_eq, List.filter_map, unplaced]
  congr 1
  apply List.filter_congr
  rintro ⟨entry, i⟩ member
  have stuck := mem_placement_iff nodup known (List.mk_mem_zipIdx_iff_getElem?.mp member)
  by_cases cyclic : document.DependsOnCycle entry.name
  · simp [cyclic, stuck]
  · simp [cyclic, stuck]

/-! ## The error -/

theorem order_eq_error_iff {error : OrderError} :
    document.order = .error error ↔
      (∃ name, firstRepeated? [] document.names = some name ∧ error = .duplicateName name) ∨
      (document.names.Nodup ∧
        document.textures.findSome? document.missingSource? = some error) ∨
      (document.names.Nodup ∧ document.SourcesKnown ∧
        document.placement.length ≠ document.textures.length ∧
        error = .cycle document.unplaced) := by
  rw [order, ← firstRepeated?_names_eq_none_iff, ← findSome?_missingSource?_eq_none_iff]
  cases firstRepeated? [] document.names with
  | some name => simp [eq_comm]
  | none =>
      cases document.textures.findSome? document.missingSource? with
      | some e => simp
      | none =>
          have left_eq := document.stillWaiting_placeAll
          rw [placeAll_eq] at left_eq
          simp only [placeAll_eq, left_eq]
          split
          next complete => simp [complete]
          next incomplete => simp [incomplete, eq_comm]

open Classical in
/-- What is wrong with the textures of a document. -/
inductive Diagnosis (document : Document) : OrderError → Prop where
  /-- A name occurs again, for the first time in the document. -/
  | duplicateName {before after : List TextureEntry} {entry : TextureEntry}
      (textures_eq : document.textures = before ++ entry :: after)
      (repeated : entry.name ∈ before.map (·.name)) (first : (before.map (·.name)).Nodup) :
      Diagnosis document (.duplicateName entry.name)
  /-- Names differ, but an input names no texture. It is the least such input of the first
  texture that has one. -/
  | missingSource {before after : List TextureEntry} {entry : TextureEntry} {slot source : String}
      (names_nodup : document.names.Nodup)
      (textures_eq : document.textures = before ++ entry :: after)
      (missing : document.LeastMissing entry slot source)
      (first : ∀ earlier ∈ before, ∀ source ∈ earlier.inputs.values, source ∈ document.names) :
      Diagnosis document (.missingSource entry.name slot source)
  /-- Names differ and inputs are there, but some textures feed themselves. -/
  | cycle (names_nodup : document.names.Nodup) (sourcesKnown : document.SourcesKnown)
      (cyclic : ¬ document.Acyclic) :
      Diagnosis document (.cycle (document.names.filter (document.DependsOnCycle ·)))

theorem acyclic_iff_length_placement (nodup : document.names.Nodup)
    (known : document.SourcesKnown) :
    document.Acyclic ↔ document.placement.length = document.textures.length := by
  constructor
  · intro acyclic
    rcases (orderable_iff.mpr ⟨nodup, known, acyclic⟩).exists_order with ⟨positions, found⟩
    obtain ⟨_, _, rfl, complete⟩ := order_eq_ok_iff.mp found
    exact complete
  · intro complete
    have found := order_eq_ok_iff.mpr ⟨nodup, known, rfl, complete⟩
    exact (orderable_iff.mp (orderable_of_order found)).2.2

/-- A document cannot be ordered for exactly one reason. A name that occurs again comes before
all else, and the first one is reported. An input that names no texture comes next: that of the
first texture which has one, and the least of its inputs. Otherwise all textures are reported
from which a cycle can be reached, in the order of the document. -/
theorem order_eq_error_iff_diagnosis (document : Document) (error : OrderError) :
    document.order = .error error ↔ document.Diagnosis error := by
  rw [order_eq_error_iff]
  constructor
  · rintro (⟨name, found, rfl⟩ | ⟨nodup, found⟩ | ⟨nodup, known, incomplete, rfl⟩)
    · obtain ⟨before, entry, after, textures_eq, first, repeated, rfl⟩ :=
        firstRepeated?_names_eq_some_iff.mp found
      exact .duplicateName textures_eq repeated first
    · obtain ⟨before, entry, after, textures_eq, reported, earlier⟩ :=
        List.findSome?_eq_some_iff.mp found
      rcases missingSource?_eq_some_iff.mp reported with ⟨slot, source, missing, rfl⟩
      apply Diagnosis.missingSource nodup textures_eq missing
      intro entry member
      exact missingSource?_eq_none_iff.mp (earlier entry member)
    · rw [unplaced_eq nodup known]
      exact .cycle nodup known (mt (acyclic_iff_length_placement nodup known).mp incomplete)
  · intro diagnosis
    cases diagnosis with
    | duplicateName textures_eq repeated first =>
        left
        have found := firstRepeated?_names_eq_some_iff.mpr
          ⟨_, _, _, textures_eq, first, repeated, rfl⟩
        exact ⟨_, found, rfl⟩
    | missingSource nodup textures_eq missing first =>
        right
        left
        apply And.intro nodup
        apply List.findSome?_eq_some_iff.mpr
        have reported := missingSource?_eq_some_iff.mpr ⟨_, _, missing, rfl⟩
        exact ⟨_, _, _, textures_eq, reported, fun entry member =>
          missingSource?_eq_none_iff.mpr (first entry member)⟩
    | cycle nodup known cyclic =>
        right
        right
        rw [unplaced_eq nodup known]
        exact ⟨nodup, known, mt (acyclic_iff_length_placement nodup known).mpr cyclic, rfl⟩

end Document

end TextureGraph
