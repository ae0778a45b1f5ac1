import TextureGraph.Proofs.Document.Cycles
import TextureGraph.Proofs.Document.Kind
import TextureGraph.Proofs.Document.Lowering
import TextureGraph.Proofs.Table.Edits

/-!
# Which documents are lowered

A document is lowered just if its images are filled, its textures can be ordered, and each of
them is of a kind, has the inputs of that kind and, if it is a band, control points in order.
Where one is refused, it is for one of these reasons: textures are lowered behind their inputs,
so no reference is ever found to lead nowhere.
-/

namespace TextureGraph

open Outcome

/-! ## What the parts of a document must be like -/

/-- Finite offsets are sorted if none of them is above one behind it. -/
theorem Band.isSorted_of_pairwise_le {offsets : List Binary32}
    (ordered : offsets.Pairwise (· ≤ ·)) : isSorted offsets := by
  induction offsets with
  | nil => rfl
  | cons first rest ih =>
      rw [List.pairwise_cons] at ordered
      cases rest with
      | nil => rfl
      | cons second rest =>
          have notBelow : ¬ second < first :=
            Binary32.not_lt_of_le (ordered.1 second List.mem_cons_self)
          rw [isSorted, ih ordered.2, decide_eq_false notBelow]
          rfl

theorem Band.wellFormed_iff {band : Band} : band.WellFormed ↔
    band.offsets.length ≤ 16 ∧ band.offsets.length = band.values.length ∧
      (∀ offset ∈ band.offsets, offset.isFinite) ∧ band.offsets.Pairwise (· ≤ ·) := by
  constructor
  · intro wellFormed
    exact ⟨wellFormed.bounded, wellFormed.paired, wellFormed.finite, wellFormed.pairwise_le⟩
  · rintro ⟨bounded, paired, finite, ordered⟩
    exact ⟨paired, bounded, finite, isSorted_of_pairwise_le ordered⟩

theorem Image.wellFormed_iff {image : Image} : image.WellFormed ↔
    image.width.toNat * image.height.toNat = image.pixels.length ∧ 0 < image.pixels.length := by
  constructor
  · rintro ⟨area_pos, pixels_length⟩
    exact ⟨pixels_length.symm, pixels_length ▸ area_pos⟩
  · rintro ⟨area_eq, pixels_pos⟩
    rw [← area_eq] at pixels_pos
    exact ⟨pixels_pos, area_eq.symm⟩

/-- Of the parameters that a texture has, only control points are left to be checked. -/
theorem TextureEntry.hasKind_iff {entry : TextureEntry} {document : Document}
    {kind : TextureKind} : entry.HasKind document kind ↔
      entry.kind document = .ok kind ∧
      (∀ slot, slot ∈ entry.inputs.keys ↔ slot ∈ kind.inputNames) ∧
      ∀ points, kind = .band points → points.WellFormed := by
  constructor
  · rintro ⟨kind_eq, keys, fits⟩
    refine ⟨kind_eq, keys, ?_⟩
    rintro points rfl
    exact fits
  · rintro ⟨kind_eq, keys, points⟩
    refine ⟨kind_eq, keys, ?_⟩
    cases kind with
    | imageMap image gain mapping =>
        rcases lastImage_of_kind kind_eq with ⟨_, _, last⟩
        exact last.lt_length
    | band own => exact points own rfl
    | _ => trivial

/-! ## Why a texture is refused -/

/-- Parameters are refused for an image that is missing, for too many control points, or for a
band that is not in order. -/
theorem TextureKind.check_eq_error {kind : TextureKind} {images : List Image} {id : NodeId}
    {error : TableError} (refused : kind.check images id = .error error) :
    (∃ image gain mapping, kind = .imageMap image gain mapping ∧ images.length ≤ image) ∨
      (∃ excess, error = .capacity excess) ∨ ∃ flaw, error = .invalidBand id flaw := by
  cases kind with
  | imageMap image gain mapping =>
      by_cases missing : images.length ≤ image
      · exact .inl ⟨image, gain, mapping, rfl, missing⟩
      · simp [check, missing, checkCapacity, capacityUse?, Except.mapError] at refused
  | band points =>
      simp only [check, checkCapacity, capacityUse?, pure_eq_ok] at refused
      split at refused
      next =>
        cases refused
        exact .inr (.inl ⟨_, rfl⟩)
      next =>
        cases flawed : points.flaw? with
        | some flaw =>
            rw [flawed] at refused
            cases refused
            exact .inr (.inr ⟨flaw, rfl⟩)
        | none =>
            rw [flawed] at refused
            cases refused
  | _ => cases refused

/-- A node of which the inputs are there in the right number is refused for its parameters. -/
theorem Node.check_eq_error {node : Node} {images : List Image} {id : NodeId}
    {error : TableError} (refused : node.check images id = .error error)
    (arity : node.children.length = node.kind.arity)
    (earlier : ∀ child ∈ node.children, child < id) :
    node.kind.check images id = .error error := by
  have none_ahead : (node.children.find? fun child => decide (id ≤ child)) = none := by
    simpa using earlier
  rw [check, if_neg (not_not_intro arity), none_ahead] at refused
  exact refused

/-- A node is appended unless the check refuses it. -/
theorem Table.push_eq_error {table : Table} {name : String} {kind : TextureKind}
    {children : List NodeId} {error : TableError}
    (refused : (table.push name kind children).1 = .error error) :
    Node.check ⟨name, kind, children⟩ table.images table.size = .error error := by
  rw [push] at refused
  cases checked : Node.check ⟨name, kind, children⟩ table.images table.size with
  | ok =>
      rw [checked] at refused
      cases refused
  | error own =>
      rw [checked] at refused
      cases refused
      rfl

/-- An image is stored unless its size is wrong. -/
theorem Table.addImage_eq_error {table : Table} {image : Image} {error : TableError}
    (refused : (table.addImage image).1 = .error error) :
    error = .imageSize image.name image.width image.height image.pixels.length := by
  rw [addImage] at refused
  split at refused
  next =>
    cases refused
    rfl
  next => cases refused

/-- Reasons for which a document may be refused. -/
inductive LoweringError.Arises : LoweringError → Prop where
  | image (name : String) (width height : UInt32) (found : Nat) :
      Arises (.image (.imageSize name width height found))
  | order (e : OrderError) : Arises (.order e)
  | kind (texture : String) (e : KindError) : Arises (.kind texture e)
  | unknownInput (texture tag slot : String) : Arises (.unknownInput texture tag slot)
  | missingInput (texture slot : String) : Arises (.missingInput texture slot)
  | capacity (texture : String) (excess : CapacityExcess) :
      Arises (.node texture (.capacity excess))
  | invalidBand (texture : String) (node : NodeId) (flaw : BandFlaw) :
      Arises (.node texture (.invalidBand node flaw))

namespace TextureEntry

variable {entry : TextureEntry} {document : Document} {table : Table} {error : LoweringError}

/-- An input that is given is found, if a table holds all that are. -/
theorem arises_of_childIn (held : ∀ source ∈ entry.inputs.values, source ∈ table.names)
    {slot : String} (refused : entry.childIn table slot = .error error) : error.Arises := by
  rw [childIn] at refused
  cases given : entry.inputs.get? slot with
  | none =>
      rw [given] at refused
      cases refused
      exact .missingInput _ _
  | some source =>
      rcases Table.exists_find?_of_mem_names (held source (Dictionary.mem_values_of_get? given))
        with ⟨child, found⟩
      simp only [given, found] at refused
      cases refused

/-- A node of a kind that a texture has, with the inputs that the texture takes, is refused for
its control points only. -/
theorem arises_of_push (images_eq : table.images = document.images) {kind : TextureKind}
    (kind_eq : entry.kind document = .ok kind) {children : List NodeId}
    (takes : List.Forall₂ (entry.Takes table) kind.inputNames children) {refusal : TableError}
    (refused : (table.push entry.name kind children).1 = .error refusal) :
    (LoweringError.node entry.name refusal).Arises := by
  have earlier : ∀ child ∈ children, child < table.size := by
    intro child member
    rcases exists_mem_of_forall₂ takes.flip member with ⟨_, _, _, _, found⟩
    exact Table.find?_lt_size found
  have checked := Node.check_eq_error (Table.push_eq_error refused) takes.length_eq.symm earlier
  obtain ⟨image, gain, mapping, isImageMap, missing⟩ | ⟨excess, rfl⟩ | ⟨flaw, rfl⟩ :=
    TextureKind.check_eq_error checked
  · obtain rfl : kind = .imageMap image gain mapping := isImageMap
    rcases lastImage_of_kind kind_eq with ⟨_, _, last⟩
    rw [images_eq] at missing
    exact absurd last.lt_length (Nat.not_lt.mpr missing)
  · exact .capacity _ _
  · exact .invalidBand _ _ _

/-- A texture of which a table holds all inputs is refused for no reference. -/
theorem arises_of_lower (images_eq : table.images = document.images)
    (held : ∀ source ∈ entry.inputs.values, source ∈ table.names)
    (refused : entry.lower document table = .error error) : error.Arises := by
  rw [lower] at refused
  cases made : entry.kind document with
  | error e =>
      rw [made] at refused
      cases refused
      exact .kind _ _
  | ok kind =>
      cases known : entry.inputs.keys.find? fun slot => !kind.inputNames.contains slot with
      | some slot =>
          simp only [made, known, Except.mapError, ok_bind] at refused
          cases refused
          exact .unknownInput _ _ _
      | none =>
          simp only [made, known, Except.mapError, ok_bind, pure_eq_ok] at refused
          cases found : kind.inputNames.mapM (entry.childIn table) with
          | error e =>
              rw [found] at refused
              cases refused
              have failed := failure?_eq_some_iff.mpr found
              rw [failure?_mapM] at failed
              rcases List.exists_of_findSome?_eq_some failed with ⟨slot, _, slotFailed⟩
              exact arises_of_childIn held (failure?_eq_some_iff.mp slotFailed)
          | ok children =>
              have takes : List.Forall₂ (entry.Takes table) kind.inputNames children :=
                (mapM_eq_ok_iff.mp found).imp fun _ _ => childIn_eq_ok_iff.mp
              rw [found, ok_bind] at refused
              cases pushed : table.push entry.name kind children with
              | mk outcome left =>
                  rw [pushed] at refused
                  cases outcome with
                  | ok => cases refused
                  | error refusal =>
                      cases refused
                      exact arises_of_push images_eq made takes (congrArg Prod.fst pushed)

end TextureEntry

namespace Document

variable {document : Document} {table : Table} {error : LoweringError}

/-- Textures that stand behind their inputs are refused for no reference. -/
theorem arises_of_foldlM_lower {before entries : List TextureEntry}
    (inTurn : InTurn TextureEntry.Fed before entries) (images_eq : table.images = document.images)
    (lowered : before.map (·.name) ⊆ table.names)
    (refused : entries.foldlM (fun table entry => entry.lower document table) table =
      .error error) : error.Arises := by
  -- The table holds the names of all textures before the next one, so also those that feed it.
  induction entries generalizing before table with
  | nil => cases refused
  | cons entry rest ih =>
      rw [List.foldlM_cons] at refused
      cases first : entry.lower document table with
      | error e =>
          rw [first] at refused
          cases refused
          exact TextureEntry.arises_of_lower images_eq
            (fun source given => lowered (inTurn.1 source given)) first
      | ok next =>
          rw [first, ok_bind] at refused
          rcases (TextureEntry.lower_eq_ok_iff images_eq).mp first with ⟨node, becomes, rfl⟩
          refine ih inTurn.2 (by exact images_eq) ?_ refused
          rw [List.map_append, List.map_singleton, ← becomes.name_eq]
          exact Table.append_subset_names lowered node

theorem arises_of_imageTable {images : List Image} {refusal : TableError}
    (refused : imageTable images = .error refusal) : (LoweringError.image refusal).Arises := by
  induction images using List.reverseRecOn with
  | nil => cases refused
  | append_singleton front last ih =>
      rw [imageTable, List.foldlM_append, ← imageTable] at refused
      cases stored : imageTable front with
      | error own =>
          rw [stored] at refused
          cases refused
          exact ih stored
      | ok table =>
          rw [stored, ok_bind, List.foldlM_cons] at refused
          cases added : table.addImage last with
          | mk outcome left =>
              rw [added] at refused
              cases outcome with
              | ok => cases refused
              | error own =>
                  cases refused
                  rw [Table.addImage_eq_error (congrArg Prod.fst added)]
                  exact .image _ _ _ _

/-- Where a document is refused, no reference has been found to lead nowhere. -/
theorem arises_of_lower (refused : document.lower = .error error) : error.Arises := by
  rw [lower] at refused
  cases stored : imageTable document.images with
  | error refusal =>
      rw [stored] at refused
      cases refused
      exact arises_of_imageTable stored
  | ok table =>
      obtain ⟨_, rfl⟩ := imageTable_eq_ok_iff.mp stored
      cases ordered : document.order with
      | error e =>
          rw [stored, ordered] at refused
          cases refused
          exact .order e
      | ok positions =>
          rw [stored, ordered] at refused
          obtain ⟨_, _, inTurn⟩ := inTurn_of_order ordered
          exact arises_of_foldlM_lower inTurn rfl (List.nil_subset _) refused

/-! ## Documents that are accepted -/

/-- A document without a flaw. -/
structure WellFormed (document : Document) : Prop where
  images : ∀ image ∈ document.images,
    image.width.toNat * image.height.toNat = image.pixels.length ∧ 0 < image.pixels.length
  names_nodup : document.names.Nodup
  /-- Every input names a texture, also one in a slot that the kind does not have. -/
  sources : ∀ entry ∈ document.textures, ∀ source ∈ entry.inputs.values, source ∈ document.names
  acyclic : document.Acyclic
  kinds : ∀ entry ∈ document.textures, ∃ kind, entry.kind document = .ok kind ∧
    (∀ slot, slot ∈ entry.inputs.keys ↔ slot ∈ kind.inputNames) ∧
    ∀ points, kind = .band points →
      points.offsets.length ≤ 16 ∧ points.offsets.length = points.values.length ∧
        (∀ offset ∈ points.offsets, offset.isFinite) ∧ points.offsets.Pairwise (· ≤ ·)

theorem lowerable_iff_wellFormed : document.Lowerable ↔ document.WellFormed := by
  constructor
  · rintro ⟨images, orderable, kinds⟩
    obtain ⟨nodup, known, acyclic⟩ := orderable_iff.mp orderable
    refine ⟨fun image member => Image.wellFormed_iff.mp (images image member), nodup, known,
      acyclic, fun entry member => ?_⟩
    rcases kinds entry member with ⟨kind, hasKind⟩
    obtain ⟨kind_eq, keys, points⟩ := TextureEntry.hasKind_iff.mp hasKind
    exact ⟨kind, kind_eq, keys, fun own isBand => Band.wellFormed_iff.mp (points own isBand)⟩
  · rintro ⟨images, nodup, known, acyclic, kinds⟩
    refine ⟨fun image member => Image.wellFormed_iff.mpr (images image member),
      orderable_iff.mpr ⟨nodup, known, acyclic⟩, fun entry member => ?_⟩
    obtain ⟨kind, kind_eq, keys, points⟩ := kinds entry member
    exact ⟨kind, TextureEntry.hasKind_iff.mpr
      ⟨kind_eq, keys, fun own isBand => Band.wellFormed_iff.mpr (points own isBand)⟩⟩

/-- A document is lowered just if it is without a flaw. Where it is not, the error is never that
an input is not defined, that a node has too few or too many inputs, or that it refers to an
input or an image that is not there. -/
theorem exists_lower_iff (document : Document) :
    ((∃ table, document.lower = .ok table) ↔ document.WellFormed) ∧
    ∀ error, document.lower = .error error →
      (∀ texture slot, error ≠ .undefinedInput texture slot) ∧
      ∀ refusal, (error = .image refusal ∨ ∃ texture, error = .node texture refusal) →
        (∀ node tag expected found, refusal ≠ .childArity node tag expected found) ∧
        (∀ node child, refusal ≠ .danglingChild node child) ∧
        ∀ node image, refusal ≠ .unknownImage node image := by
  constructor
  · rw [← lowerable_iff_wellFormed]
    exact ⟨fun ⟨_, lowered⟩ => lowerable_of_lower lowered, Lowerable.exists_lower⟩
  · intro error refused
    have arises := arises_of_lower refused
    constructor
    · rintro texture slot rfl
      cases arises
    · rintro refusal (rfl | ⟨texture, rfl⟩)
      · cases arises
        exact ⟨nofun, nofun, nofun⟩
      · cases arises
        all_goals exact ⟨nofun, nofun, nofun⟩

end Document

end TextureGraph
