import TextureGraph.Proofs.Document.Countdown

/-!
# Documents that can be ordered

A document can be ordered if its textures have different names and can be ranked so that
each ranks above those that feed it. An order that is found gives such a ranking, and one
is found whenever there is a ranking.
-/

namespace TextureGraph

/-- Among different names each is found where it stands. -/
theorem findIdx?_beq_eq_some_iff {names : List String} (nodup : names.Nodup) {name : String}
    {position : Nat} :
    names.findIdx? (· == name) = some position ↔ names[position]? = some name := by
  rw [List.findIdx?_eq_some_iff_getElem]
  constructor
  · rintro ⟨inside, found, _⟩
    rw [List.getElem?_eq_getElem inside, beq_iff_eq.mp found]
  · intro found
    rcases List.getElem?_eq_some_iff.mp found with ⟨inside, rfl⟩
    refine ⟨inside, beq_self_eq_true _, fun earlier before same => ?_⟩
    have position_eq := (nodup.getElem_inj_iff).mp (beq_iff_eq.mp same)
    exact Nat.ne_of_lt before position_eq

/-- In a list without duplicates what stands before an element has a smaller index. -/
theorem idxOf_lt_idxOf_of_mem {α : Type} [DecidableEq α] {before after : List α}
    {first second : α} (nodup : (before ++ second :: after).Nodup) (early : first ∈ before) :
    (before ++ second :: after).idxOf first < (before ++ second :: after).idxOf second := by
  have fresh : second ∉ before := fun member =>
    List.disjoint_of_nodup_append nodup member List.mem_cons_self
  rw [List.idxOf_append_of_mem early, List.idxOf_append_of_notMem fresh, List.idxOf_cons_self,
    Nat.add_zero]
  exact List.idxOf_lt_length_of_mem early

/-- All that feeds a texture stands before it. -/
def TextureEntry.Fed (before : List TextureEntry) (entry : TextureEntry) : Prop :=
  ∀ source ∈ entry.inputs.values, source ∈ before.map (·.name)

namespace Document

/-- Textures are fed by textures only. -/
def SourcesKnown (document : Document) : Prop :=
  ∀ entry ∈ document.textures, ∀ source ∈ entry.inputs.values, source ∈ document.names

instance (document : Document) : Decidable document.SourcesKnown :=
  inferInstanceAs (Decidable (∀ entry ∈ document.textures, ∀ source ∈ entry.inputs.values,
    source ∈ document.names))

/-- Textures of different names, each fed by textures of a lower rank. -/
structure Orderable (document : Document) : Prop where
  names_nodup : document.names.Nodup
  sourcesKnown : document.SourcesKnown
  exists_rank : ∃ rank : String → Nat, ∀ entry ∈ document.textures,
    ∀ source ∈ entry.inputs.values, rank source < rank entry.name

variable {document : Document}

/-! ## What is checked before textures are placed -/

theorem firstRepeated?_eq_none_iff {seen names : List String} :
    firstRepeated? seen names = none ↔ names.Nodup ∧ ∀ name ∈ names, name ∉ seen := by
  induction names generalizing seen with
  | nil => simp [firstRepeated?]
  | cons name rest ih =>
      by_cases repeated : name ∈ seen
      · simp [firstRepeated?, repeated]
      · rw [firstRepeated?, if_neg repeated, ih]
        simp only [List.nodup_cons, List.mem_cons, forall_eq_or_imp, not_or]
        constructor
        · rintro ⟨nodup, fresh⟩
          exact ⟨⟨fun member => (fresh name member).1 rfl, nodup⟩, repeated,
            fun other member => (fresh other member).2⟩
        · rintro ⟨⟨absent, nodup⟩, _, fresh⟩
          exact ⟨nodup, fun other member =>
            ⟨fun same => absent (same ▸ member), fresh other member⟩⟩

theorem firstRepeated?_names_eq_none_iff :
    firstRepeated? [] document.names = none ↔ document.names.Nodup := by
  simp [firstRepeated?_eq_none_iff]

theorem missingSource?_eq_none_iff {entry : TextureEntry} :
    document.missingSource? entry = none ↔
      ∀ source ∈ entry.inputs.values, source ∈ document.names := by
  have listed (input : String × String) :
      input ∈ entry.inputs.sorted ↔ input ∈ entry.inputs.entries :=
    (List.mergeSort_perm _ _).mem_iff
  simp only [missingSource?, Option.map_eq_none_iff, List.find?_eq_none, listed,
    Bool.not_eq_true', Bool.not_eq_false, List.contains_iff_mem, Dictionary.values, List.mem_map,
    forall_exists_index, and_imp, forall_apply_eq_imp_iff₂]

theorem findSome?_missingSource?_eq_none_iff :
    document.textures.findSome? document.missingSource? = none ↔ document.SourcesKnown := by
  simp only [SourcesKnown, List.findSome?_eq_none_iff, missingSource?_eq_none_iff]

/-! ## What is placed -/

theorem length_sourceIndices : document.sourceIndices.length = document.textures.length :=
  List.length_map _

/-- Positions of the textures as far as they can be placed. -/
def placement (document : Document) : List Nat :=
  place document.sourceIndices document.textures.length
    ((List.range document.textures.length).filter fun i =>
      document.sourceIndices[i]?.any List.isEmpty) []

theorem placing_placement (document : Document) :
    Placing document.sourceIndices [] document.placement := by
  have placing := (Placing.start document.sourceIndices).place
    (Nat.zero_add document.sourceIndices.length)
  rwa [length_sourceIndices] at placing

/-- Counting places what can be placed, and leaves the counts of what is placed. -/
theorem placeAll_eq (document : Document) :
    document.placeAll =
      (⟨document.sourceIndices.map (unplacedCount document.placement), []⟩,
        document.placement) := by
  rw [placeAll, Countdown.start_eq, placement, ← length_sourceIndices]
  exact Countdown.run_eq (Placing.start document.sourceIndices) (Nat.zero_add _)

theorem order_eq_ok_iff {positions : List Nat} :
    document.order = .ok positions ↔ document.names.Nodup ∧ document.SourcesKnown ∧
      document.placement = positions ∧ positions.length = document.textures.length := by
  rw [order, ← firstRepeated?_names_eq_none_iff, ← findSome?_missingSource?_eq_none_iff]
  cases firstRepeated? [] document.names with
  | some name => simp
  | none =>
      cases document.textures.findSome? document.missingSource? with
      | some e => simp
      | none =>
          simp only [true_and, placeAll_eq]
          split
          next complete =>
            rw [Except.ok.injEq]
            constructor
            · rintro rfl
              exact ⟨rfl, complete⟩
            · exact And.left
          next incomplete =>
            simp only [reduceCtorEq, false_iff, not_and]
            rintro rfl
            exact incomplete

/-! ## Positions and textures -/

/-- Textures at the positions of a list. -/
def texturesAt (document : Document) (positions : List Nat) : List TextureEntry :=
  positions.filterMap (document.textures[·]?)

theorem texturesAt_range : document.texturesAt (List.range document.textures.length) =
    document.textures := by
  have each : (List.range document.textures.length).map (document.textures[·]?) =
      document.textures.map some :=
    List.ext_getElem (by simp) (by simp)
  calc
    document.texturesAt (List.range document.textures.length)
        = ((List.range document.textures.length).map (document.textures[·]?)).filterMap id := by
          rw [List.filterMap_map]
          rfl
    _ = (document.textures.map some).filterMap id := by rw [each]
    _ = document.textures := by simp

theorem mem_texturesAt_iff {positions : List Nat} {entry : TextureEntry} :
    entry ∈ document.texturesAt positions ↔
      ∃ i ∈ positions, document.textures[i]? = some entry :=
  List.mem_filterMap

/-- A position that is supplied is that of a texture. -/
theorem Supplied.exists_texture {before : List Nat} {i : Nat}
    (supplied : Supplied document.sourceIndices before i) :
    ∃ entry, document.textures[i]? = some entry := by
  have inside := supplied.lt_length
  rw [length_sourceIndices] at inside
  exact ⟨_, List.getElem?_eq_getElem inside⟩

theorem sourceIndices_getElem? {i : Nat} {entry : TextureEntry}
    (found : document.textures[i]? = some entry) :
    document.sourceIndices[i]? =
      some (entry.inputs.values.filterMap fun source => document.names.findIdx? (· == source)) := by
  rw [sourceIndices, List.getElem?_map, found, Option.map_some]

/-- Where names differ, a texture is fed by those at some positions just if they supply its
own. -/
theorem supplied_iff_fed (nodup : document.names.Nodup) {entry : TextureEntry}
    (known : ∀ source ∈ entry.inputs.values, source ∈ document.names) {before : List Nat} {i : Nat}
    (found : document.textures[i]? = some entry) :
    Supplied document.sourceIndices before i ↔ entry.Fed (document.texturesAt before) := by
  have named (input : Nat) (name : String) :
      document.names[input]? = some name ↔
        ∃ feeder, document.textures[input]? = some feeder ∧ feeder.name = name := by
    rw [names, List.getElem?_map, Option.map_eq_some_iff]
  constructor
  · rintro ⟨inputs, inputsFound, placed⟩ source feeds
    rw [sourceIndices_getElem? found] at inputsFound
    cases inputsFound
    rcases List.mem_iff_getElem?.mp (known source feeds) with ⟨input, position⟩
    have before_mem := placed input
      (List.mem_filterMap.mpr ⟨source, feeds, (findIdx?_beq_eq_some_iff nodup).mpr position⟩)
    rcases (named input source).mp position with ⟨feeder, feederFound, rfl⟩
    exact List.mem_map_of_mem (mem_texturesAt_iff.mpr ⟨input, before_mem, feederFound⟩)
  · intro fed
    refine ⟨_, sourceIndices_getElem? found, fun input member => ?_⟩
    rcases List.mem_filterMap.mp member with ⟨source, feeds, position⟩
    rcases List.mem_map.mp (fed source feeds) with ⟨feeder, feeder_mem, rfl⟩
    rcases mem_texturesAt_iff.mp feeder_mem with ⟨k, placed, feederFound⟩
    have again := (findIdx?_beq_eq_some_iff nodup).mpr ((named k _).mpr ⟨feeder, feederFound, rfl⟩)
    cases position.symm.trans again
    exact placed

/-! ## Orders that are found -/

/-- Textures at positions in dependency order are themselves in dependency order. -/
theorem inTurn_texturesAt (nodup : document.names.Nodup) (known : document.SourcesKnown)
    {before positions : List Nat}
    (inTurn : InTurn (Supplied document.sourceIndices) before positions) :
    InTurn TextureEntry.Fed (document.texturesAt before) (document.texturesAt positions) := by
  induction positions generalizing before with
  | nil => trivial
  | cons next rest ih =>
      rcases inTurn.1.exists_texture with ⟨entry, found⟩
      have fed := (supplied_iff_fed nodup (known entry (List.mem_of_getElem? found)) found).mp
        inTurn.1
      have next_eq : document.texturesAt (before ++ [next]) =
          document.texturesAt before ++ [entry] := by
        simp [texturesAt, List.filterMap_append, found]
      have rest_eq : document.texturesAt (next :: rest) = entry :: document.texturesAt rest :=
        List.filterMap_cons_some found
      rw [rest_eq]
      exact ⟨fed, next_eq ▸ ih inTurn.2⟩

theorem nodup_placement (document : Document) : document.placement.Nodup := by
  simpa only [List.append_nil] using document.placing_placement.nodup

theorem mem_placement_iff_supplied {i : Nat} :
    i ∈ document.placement ↔ Supplied document.sourceIndices document.placement i := by
  simpa only [List.append_nil] using document.placing_placement.mem_iff i

/-- An order that is found lists each position once. -/
theorem perm_range_of_order {positions : List Nat} (found : document.order = .ok positions) :
    positions.Perm (List.range document.textures.length) := by
  obtain ⟨_, _, rfl, complete⟩ := order_eq_ok_iff.mp found
  have inside : document.placement ⊆ List.range document.textures.length := by
    intro i member
    rcases (mem_placement_iff_supplied.mp member).exists_texture with ⟨_, textureFound⟩
    exact List.mem_range.mpr (List.getElem?_eq_some_iff.mp textureFound).1
  have enough : (List.range document.textures.length).length ≤ document.placement.length := by
    rw [List.length_range]
    exact Nat.le_of_eq complete.symm
  exact (document.nodup_placement.subperm inside).perm_of_length_le enough

/-- An order that is found arranges the textures so that each comes behind those that feed
it. -/
theorem inTurn_of_order {positions : List Nat} (found : document.order = .ok positions) :
    document.names.Nodup ∧ (document.texturesAt positions).Perm document.textures ∧
      InTurn TextureEntry.Fed [] (document.texturesAt positions) := by
  have textures_perm := (perm_range_of_order found).filterMap (document.textures[·]?)
  obtain ⟨nodup, known, rfl, _⟩ := order_eq_ok_iff.mp found
  refine ⟨nodup, ?_, inTurn_texturesAt nodup known document.placing_placement.inTurn⟩
  rwa [← texturesAt, ← texturesAt, texturesAt_range] at textures_perm

/-- In an arrangement of textures of different names the places of the names are ranks. -/
theorem idxOf_lt_of_inTurn {entries : List TextureEntry}
    (nodup : (entries.map (·.name)).Nodup) (inTurn : InTurn TextureEntry.Fed [] entries)
    {entry : TextureEntry} (member : entry ∈ entries) {source : String}
    (feeds : source ∈ entry.inputs.values) :
    (entries.map (·.name)).idxOf source < (entries.map (·.name)).idxOf entry.name := by
  rcases List.append_of_mem member with ⟨before, after, rfl⟩
  have fed : source ∈ before.map (·.name) := (inTurn_append_iff.mp inTurn).2.1 source feeds
  rw [List.map_append, List.map_cons] at nodup ⊢
  exact idxOf_lt_idxOf_of_mem nodup fed

theorem orderable_of_order {positions : List Nat} (found : document.order = .ok positions) :
    document.Orderable := by
  obtain ⟨nodup, perm, inTurn⟩ := inTurn_of_order found
  obtain ⟨_, known, _, _⟩ := order_eq_ok_iff.mp found
  have arranged : ((document.texturesAt positions).map (·.name)).Nodup :=
    (perm.map _).nodup_iff.mpr nodup
  exact ⟨nodup, known, _, fun _ member _ feeds =>
    idxOf_lt_of_inTurn arranged inTurn (perm.mem_iff.mpr member) feeds⟩

/-- A texture is placed if all that feed it are: it has been released with the last of them. -/
theorem mem_texturesAt_placement_of_fed (nodup : document.names.Nodup)
    (known : document.SourcesKnown) {entry : TextureEntry} (member : entry ∈ document.textures)
    (fed : entry.Fed (document.texturesAt document.placement)) :
    entry ∈ document.texturesAt document.placement := by
  rcases List.mem_iff_getElem?.mp member with ⟨i, found⟩
  have supplied := (supplied_iff_fed nodup (known entry member) found).mpr fed
  exact mem_texturesAt_iff.mpr ⟨i, mem_placement_iff_supplied.mpr supplied, found⟩

/-- Every texture is placed, as those of lower rank are. -/
theorem Orderable.mem_texturesAt_placement (orderable : document.Orderable) {entry : TextureEntry}
    (member : entry ∈ document.textures) : entry ∈ document.texturesAt document.placement := by
  rcases orderable.exists_rank with ⟨rank, ranked⟩
  induction rank_eq : rank entry.name using Nat.strongRecOn generalizing entry with
  | ind height ih =>
      subst rank_eq
      apply mem_texturesAt_placement_of_fed orderable.names_nodup orderable.sourcesKnown member
      intro source feeds
      rcases List.mem_map.mp (orderable.sourcesKnown entry member source feeds) with
        ⟨feeder, feeder_mem, rfl⟩
      exact List.mem_map_of_mem (ih _ (ranked entry member _ feeds) feeder_mem rfl)

/-- An order is found for every document that can be ordered. -/
theorem Orderable.exists_order (orderable : document.Orderable) :
    ∃ positions, document.order = .ok positions := by
  have nodup := orderable.names_nodup
  have enough : document.textures.length ≤ document.placement.length :=
    calc
      document.textures.length ≤ (document.texturesAt document.placement).length :=
        ((List.Nodup.of_map _ nodup).subperm
          fun _ => orderable.mem_texturesAt_placement).length_le
      _ ≤ document.placement.length := List.length_filterMap_le _ _
  have fits : document.placement.length ≤ document.textures.length := by
    have placing := document.placing_placement.length_le
    rwa [List.append_nil, length_sourceIndices] at placing
  exact ⟨_, order_eq_ok_iff.mpr ⟨nodup, orderable.sourcesKnown, rfl, Nat.le_antisymm fits enough⟩⟩

end Document

end TextureGraph
