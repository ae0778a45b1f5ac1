import TextureGraph.Proofs.Outcome
import TextureGraph.Table.Basic

/-!
# Tables built by edits

Whatever edits are made to an empty table, whether they succeed or fail, its nodes
have the inputs that their kinds ask for, all of them earlier in the table, and their
parameters refer to nothing that is not there.
-/

namespace TextureGraph

/-- Control points that a table accepts. -/
structure Band.WellFormed (band : Band) : Prop where
  paired : band.offsets.length = band.values.length
  bounded : band.offsets.length ≤ Band.maxPoints
  finite : ∀ offset ∈ band.offsets, offset.isFinite
  sorted : Band.isSorted band.offsets

/-- An image whose pixels fill its declared size, which is not empty. -/
structure Image.WellFormed (image : Image) : Prop where
  area_pos : 0 < image.area
  pixels_length : image.pixels.length = image.area

/-- Parameters that make sense in a table with a number of images. -/
def TextureKind.Fits (kind : TextureKind) (imageCount : Nat) : Prop :=
  match kind with
  | .imageMap image _ _ => image < imageCount
  | .band points => points.WellFormed
  | _ => True

/-- A node that can stand at a position of a table with a number of images. -/
structure Node.Stands (node : Node) (imageCount : Nat) (id : NodeId) : Prop where
  children_length : node.children.length = node.kind.arity
  child_lt : ∀ child ∈ node.children, child < id
  fits : node.kind.Fits imageCount

namespace Table

structure WellFormed (table : Table) : Prop where
  stands : ∀ {id node}, table.node? id = some node → node.Stands table.images.length id
  image : ∀ image ∈ table.images, image.WellFormed

/-- Tables that edits make of the empty one. An edit that fails counts as well, with
the table that it leaves behind. -/
inductive Built : Table → Prop where
  | empty : Built empty
  | addImage {table : Table} (built : Built table) (image : Image) : Built (table.addImage image).2
  | push {table : Table} (built : Built table) (name : String) (kind : TextureKind)
      (children : List NodeId) : Built (table.push name kind children).2
  | replace {table : Table} (built : Built table) (id : NodeId) (kind : TextureKind)
      (children : List NodeId) : Built (table.replace id kind children).2
  | remove {table : Table} (built : Built table) (id : NodeId) : Built (table.remove id).2

end Table

/-! ## What the checks establish -/

theorem Band.flaw?_eq_none_iff {band : Band} :
    band.flaw? = none ↔ band.offsets.length = band.values.length ∧
      (∀ offset ∈ band.offsets, offset.isFinite) ∧ isSorted band.offsets := by
  rw [flaw?, ← List.all_eq_true]
  by_cases paired : band.offsets.length = band.values.length
  · by_cases finite : band.offsets.all Binary32.isFinite
    · by_cases sorted : isSorted band.offsets <;> simp [paired, finite, sorted]
    · simp [paired, finite]
  · simp [paired]

theorem TextureKind.checkCapacity_eq_ok_iff {kind : TextureKind} {id : NodeId} :
    kind.checkCapacity id = .ok () ↔ ∀ use, kind.capacityUse? = some use → use.2 ≤ use.1 := by
  unfold checkCapacity
  split
  next limit found use =>
    by_cases exceeds : limit < found
    · simp [exceeds, use]
    · simp [exceeds, use, Nat.not_lt.mp exceeds]
  next use => simp [use]

/-- Of all kinds only bands have parameters that can be too many. -/
theorem TextureKind.check_eq_ok_iff {kind : TextureKind} {images : List Image} {id : NodeId} :
    kind.check images id = .ok () ↔ kind.Fits images.length := by
  cases kind with
  | imageMap image gain mapping =>
      by_cases missing : images.length ≤ image
      · simp [check, Fits, missing]
      · simp [check, Fits, checkCapacity_eq_ok_iff, capacityUse?, Outcome.check_bind_eq_ok_iff,
          missing, Nat.not_le.mp missing]
  | band points =>
      have checked : (band points).check images id = .ok () ↔
          max points.offsets.length points.values.length ≤ Band.maxPoints ∧
            points.flaw? = none := by
        simp only [check, capacityUse?, Outcome.check_bind_eq_ok_iff, Outcome.pure_eq_ok,
          Outcome.mapError_eq_ok_iff, checkCapacity_eq_ok_iff, Option.some.injEq, forall_eq']
        refine and_congr_right fun _ => ?_
        cases points.flaw? <;> simp
      rw [checked, Band.flaw?_eq_none_iff]
      constructor
      · rintro ⟨bounded, paired, finite, sorted⟩
        exact ⟨paired, (Nat.max_le.mp bounded).1, finite, sorted⟩
      · rintro ⟨paired, bounded, finite, sorted⟩
        exact ⟨Nat.max_le.mpr ⟨bounded, paired ▸ bounded⟩, paired, finite, sorted⟩
  | _ =>
      simp [check, Fits, checkCapacity_eq_ok_iff, capacityUse?, Outcome.check_bind_eq_ok_iff]

theorem Node.check_eq_ok_iff {node : Node} {images : List Image} {id : NodeId} :
    node.check images id = .ok () ↔ node.Stands images.length id := by
  have earlier : (∀ child ∈ node.children, child < id) ↔
      (node.children.find? fun child => decide (id ≤ child)) = none := by
    simp
  have checked : node.check images id = .ok () ↔ node.children.length = node.kind.arity ∧
      (∀ child ∈ node.children, child < id) ∧ node.kind.check images id = .ok () := by
    rw [check, earlier]
    by_cases arity : node.children.length = node.kind.arity
    · cases node.children.find? fun child => decide (id ≤ child) <;> simp [arity]
    · simp [arity]
  rw [checked, TextureKind.check_eq_ok_iff]
  exact ⟨fun ⟨arity, earlier, fits⟩ => ⟨arity, earlier, fits⟩,
    fun ⟨arity, earlier, fits⟩ => ⟨arity, earlier, fits⟩⟩

/-! ## What an edit can do -/

namespace Table

variable (table : Table)

theorem addImage_of_wellFormed {image : Image} (wellFormed : image.WellFormed) :
    table.addImage image =
      (.ok table.images.length, { table with images := table.images ++ [image] }) := by
  refine if_neg ?_
  rw [not_or, not_ne_iff]
  exact ⟨Nat.ne_of_gt wellFormed.area_pos, wellFormed.pixels_length⟩

theorem addImage_cases (image : Image) :
    (∃ error, table.addImage image = (.error error, table)) ∨
    image.WellFormed ∧
      table.addImage image =
        (.ok table.images.length, { table with images := table.images ++ [image] }) := by
  by_cases refused : image.area = 0 ∨ image.pixels.length ≠ image.area
  · exact .inl ⟨_, if_pos refused⟩
  · rw [not_or, not_ne_iff] at refused
    have wellFormed : image.WellFormed := ⟨Nat.pos_of_ne_zero refused.1, refused.2⟩
    exact .inr ⟨wellFormed, table.addImage_of_wellFormed wellFormed⟩

theorem push_of_stands {node : Node} (stands : node.Stands table.images.length table.size) :
    table.push node.name node.kind node.children =
      (.ok table.size, { table with nodes := table.nodes ++ [node] }) := by
  have checked := Node.check_eq_ok_iff.mpr stands
  simp only [push, checked]

theorem push_cases (name : String) (kind : TextureKind) (children : List NodeId) :
    (∃ error, table.push name kind children = (.error error, table)) ∨
    Node.Stands ⟨name, kind, children⟩ table.images.length table.size ∧
      table.push name kind children =
        (.ok table.size, { table with nodes := table.nodes ++ [⟨name, kind, children⟩] }) := by
  cases checked : Node.check ⟨name, kind, children⟩ table.images table.size with
  | error error => exact .inl ⟨error, by simp only [push, checked]⟩
  | ok =>
      have stands := Node.check_eq_ok_iff.mp checked
      exact .inr ⟨stands, table.push_of_stands stands⟩

theorem replace_cases (id : NodeId) (kind : TextureKind) (children : List NodeId) :
    (∃ error, table.replace id kind children = (.error error, table)) ∨
    ∃ old, table.node? id = some old ∧
      Node.Stands ⟨old.name, kind, children⟩ table.images.length id ∧
      table.replace id kind children =
        (.ok (), { table with nodes := table.nodes.set id ⟨old.name, kind, children⟩ }) := by
  cases found : table.node? id with
  | none => exact .inl ⟨_, by simp only [replace, found]; rfl⟩
  | some old =>
      cases checked : Node.check ⟨old.name, kind, children⟩ table.images id with
      | error error => exact .inl ⟨error, by simp only [replace, found, checked]⟩
      | ok =>
          exact .inr ⟨old, rfl, Node.check_eq_ok_iff.mp checked,
            by simp only [replace, found, checked]⟩

theorem remove_cases (id : NodeId) :
    (∃ error, table.remove id = (.error error, table)) ∨
    ∃ removed, table.node? id = some removed ∧
      (∀ node ∈ table.nodes, id ∉ node.children) ∧
      table.remove id = (.ok removed,
        { table with nodes := (table.nodes.eraseIdx id).map (·.shiftChildren id) }) := by
  cases found : table.node? id with
  | none => exact .inl ⟨_, by simp only [remove, found]; rfl⟩
  | some removed =>
      cases used : table.firstUser? id with
      | some user => exact .inl ⟨_, by simp only [remove, found, used]; rfl⟩
      | none =>
          refine .inr ⟨removed, rfl, ?_, by simp only [remove, found, used]⟩
          simpa [firstUser?] using used

end Table

/-! ## What the edits preserve -/

theorem TextureKind.Fits.mono {kind : TextureKind} {imageCount more : Nat}
    (fits : kind.Fits imageCount) (le : imageCount ≤ more) : kind.Fits more := by
  cases kind with
  | imageMap image gain mapping => exact Nat.lt_of_lt_of_le fits le
  | _ => exact fits

namespace Node.Stands

variable {node : Node} {imageCount more : Nat} {id removed : NodeId}

theorem mono (stands : node.Stands imageCount id) (le : imageCount ≤ more) :
    node.Stands more id :=
  ⟨stands.children_length, stands.child_lt, stands.fits.mono le⟩

/-- Where an earlier position moves to when a position in between is removed. -/
private theorem shifted_lt {old removed id moved : Nat} (earlier : old < id)
    (other : old ≠ removed)
    (shift : id = moved ∧ moved < removed ∨ id = moved + 1 ∧ ¬ moved < removed) :
    (if removed < old then old - 1 else old) < moved := by
  split <;> omega

/-- A node that stands behind a removed one moves up by one, and its inputs with it. -/
theorem shiftChildren {moved : NodeId} (stands : node.Stands imageCount id)
    (unused : removed ∉ node.children)
    (shift : id = moved ∧ moved < removed ∨ id = moved + 1 ∧ ¬ moved < removed) :
    (node.shiftChildren removed).Stands imageCount moved where
  children_length := by
    rw [Node.shiftChildren, List.length_map]
    exact stands.children_length
  child_lt child member := by
    rcases List.mem_map.mp member with ⟨old, oldMember, rfl⟩
    have other : old ≠ removed := fun same => unused (same ▸ oldMember)
    exact shifted_lt (stands.child_lt old oldMember) other shift
  fits := stands.fits

end Node.Stands

namespace Table

variable {table : Table}

theorem wellFormed_empty : WellFormed empty where
  stands found := by cases found
  image _ member := by cases member

theorem WellFormed.addImage (wellFormed : table.WellFormed) (image : Image) :
    (table.addImage image).2.WellFormed := by
  obtain ⟨_, refused⟩ | ⟨accepted, added⟩ := table.addImage_cases image
  · rw [refused]
    exact wellFormed
  · rw [added]
    constructor
    · intro id node found
      exact (wellFormed.stands found).mono (by simp)
    · intro other member
      rcases List.mem_append.mp member with old | new
      · exact wellFormed.image other old
      · rw [List.mem_singleton.mp new]
        exact accepted

theorem WellFormed.push (wellFormed : table.WellFormed) (name : String) (kind : TextureKind)
    (children : List NodeId) : (table.push name kind children).2.WellFormed := by
  obtain ⟨_, refused⟩ | ⟨stands, pushed⟩ := table.push_cases name kind children
  · rw [refused]
    exact wellFormed
  · rw [pushed]
    refine ⟨fun {id node} found => ?_, wellFormed.image⟩
    by_cases old : id < table.size
    · rw [node?, List.getElem?_append_left old] at found
      exact wellFormed.stands found
    · rcases List.getElem?_eq_some_iff.mp found with ⟨inside, _⟩
      have last : id = table.size := by
        simp only [List.length_append, List.length_singleton] at inside
        exact Nat.le_antisymm (Nat.le_of_lt_succ inside) (Nat.not_lt.mp old)
      subst last
      rw [node?, size, List.getElem?_concat_length] at found
      cases found
      exact stands

theorem WellFormed.replace (wellFormed : table.WellFormed) (id : NodeId) (kind : TextureKind)
    (children : List NodeId) : (table.replace id kind children).2.WellFormed := by
  obtain ⟨_, refused⟩ | ⟨old, found, stands, replaced⟩ := table.replace_cases id kind children
  · rw [refused]
    exact wellFormed
  · rw [replaced]
    refine ⟨fun {other node} foundOther => ?_, wellFormed.image⟩
    by_cases same : id = other
    · subst same
      rcases List.getElem?_eq_some_iff.mp found with ⟨inside, _⟩
      rw [node?, List.getElem?_set_self inside] at foundOther
      cases foundOther
      exact stands
    · rw [node?, List.getElem?_set_ne same] at foundOther
      exact wellFormed.stands foundOther

theorem WellFormed.remove (wellFormed : table.WellFormed) (id : NodeId) :
    (table.remove id).2.WellFormed := by
  obtain ⟨_, refused⟩ | ⟨removed, found, unused, taken⟩ := table.remove_cases id
  · rw [refused]
    exact wellFormed
  · rw [taken]
    refine ⟨fun {moved node} foundMoved => ?_, wellFormed.image⟩
    rw [node?, List.getElem?_map, List.getElem?_eraseIdx, Option.map_eq_some_iff] at foundMoved
    rcases foundMoved with ⟨node, foundOld, rfl⟩
    split at foundOld
    next before =>
      exact (wellFormed.stands foundOld).shiftChildren
        (unused node (List.mem_of_getElem? foundOld)) (.inl ⟨rfl, before⟩)
    next behind =>
      exact (wellFormed.stands foundOld).shiftChildren
        (unused node (List.mem_of_getElem? foundOld)) (.inr ⟨rfl, behind⟩)

/-- The edits keep a table well formed. -/
theorem Built.wellFormed (built : Built table) : table.WellFormed := by
  induction built with
  | empty => exact wellFormed_empty
  | addImage _ image ih => exact ih.addImage image
  | push _ name kind children ih => exact ih.push name kind children
  | replace _ id kind children ih => exact ih.replace id kind children
  | remove _ id ih => exact ih.remove id

/-- A projection of three lookups, the first of which is displaced. -/
def nested : Table where
  nodes := [
    ⟨"wind", .windy .identity, []⟩,
    ⟨"coordinates", .uv .identity, []⟩,
    ⟨"displaced", .distort 1, [0, 1]⟩,
    ⟨"projected", .triplanar .identity, [2, 0, 1]⟩]
  images := []

theorem built_nested : Built nested :=
  (((Built.empty.push "wind" (.windy .identity) []).push "coordinates" (.uv .identity) []).push
    "displaced" (.distort 1) [0, 1]).push "projected" (.triplanar .identity) [2, 0, 1]

end Table

end TextureGraph
