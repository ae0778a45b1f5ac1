import TextureGraph.Proofs.Document.Lowering

/-!
# Textures under other names

Names tie the textures of a document together and have no other part in what they are: a
texture under another name, whose inputs have other names as well, is of the same kind.
-/

namespace TextureGraph

namespace Dictionary

variable {α β γ : Type}

/-- The same names with other values. -/
def mapValues (f : α → β) (dictionary : Dictionary α) : Dictionary β where
  entries := dictionary.entries.map (Prod.map id f)
  nodup := by
    rw [List.map_map]
    exact dictionary.nodup

variable {f : α → β} {dictionary : Dictionary α}

theorem keys_mapValues : (dictionary.mapValues f).keys = dictionary.keys :=
  List.map_map

theorem values_mapValues : (dictionary.mapValues f).values = dictionary.values.map f := by
  simp only [values, mapValues, List.map_map]
  rfl

theorem get?_mapValues (name : String) :
    (dictionary.mapValues f).get? name = (dictionary.get? name).map f := by
  simp only [get?, mapValues, List.find?_map, Option.map_map]
  rfl

theorem mapValues_eq_self {f : α → α} (fixed : ∀ value ∈ dictionary.values, f value = value) :
    dictionary.mapValues f = dictionary := by
  apply ext_entries
  refine (List.map_congr_left fun entry member => ?_).trans (List.map_id _)
  exact Prod.ext rfl (fixed entry.2 (List.mem_map_of_mem member))

theorem mapValues_mapValues (g : β → γ) :
    (dictionary.mapValues f).mapValues g = dictionary.mapValues (g ∘ f) := by
  apply ext_entries
  simp only [mapValues, List.map_map, Prod.map_comp_map]
  rfl

end Dictionary

namespace TextureEntry

/-- Give a texture and its inputs other names. -/
def rename (newName : String → String) (entry : TextureEntry) : TextureEntry :=
  { entry with name := newName entry.name, inputs := entry.inputs.mapValues newName }

/-- Names that a texture mentions: its own and those of its inputs. -/
def mentions (entry : TextureEntry) : List String :=
  entry.name :: entry.inputs.values

variable {entry : TextureEntry} {newName : String → String} {document other : Document}
  {kind : TextureKind}

theorem feeds_rename {source : String} (feeds : source ∈ entry.inputs.values) :
    newName source ∈ (entry.rename newName).inputs.values := by
  rw [rename, Dictionary.values_mapValues]
  exact List.mem_map_of_mem feeds

theorem mentions_rename : (entry.rename newName).mentions = entry.mentions.map newName := by
  simp only [mentions, rename, Dictionary.values_mapValues, List.map_cons]

theorem rename_rename (oldName : String → String) :
    (entry.rename newName).rename oldName = entry.rename (oldName ∘ newName) := by
  simp only [rename, Dictionary.mapValues_mapValues]
  rfl

theorem rename_eq_self (fixed : ∀ name ∈ entry.mentions, newName name = name) :
    entry.rename newName = entry := by
  rw [rename, fixed _ List.mem_cons_self,
    Dictionary.mapValues_eq_self fun value member => fixed value (List.mem_cons_of_mem _ member)]

/-- Which kind a texture is of depends on its tag, its parameters and the images alone. -/
theorem kind_rename_eq_ok_iff (images_eq : other.images = document.images) :
    (entry.rename newName).kind other = .ok kind ↔ entry.kind document = .ok kind := by
  have imageOf_eq : (entry.rename newName).imageOf other = entry.imageOf document := by
    simp only [imageOf, rename, Document.imageIndex?, images_eq]
  simp only [TextureEntry.kind, imageOf_eq]
  simp only [rename]
  split <;> simp

theorem hasKind_rename_iff (images_eq : other.images = document.images) :
    (entry.rename newName).HasKind other kind ↔ entry.HasKind document kind := by
  have keys_eq : (entry.rename newName).inputs.keys = entry.inputs.keys :=
    Dictionary.keys_mapValues
  constructor
  · rintro ⟨kind_eq, slots, fits⟩
    exact ⟨(kind_rename_eq_ok_iff images_eq).mp kind_eq, keys_eq ▸ slots, images_eq ▸ fits⟩
  · rintro ⟨kind_eq, slots, fits⟩
    exact ⟨(kind_rename_eq_ok_iff images_eq).mpr kind_eq, keys_eq ▸ slots, images_eq ▸ fits⟩

end TextureEntry

end TextureGraph
