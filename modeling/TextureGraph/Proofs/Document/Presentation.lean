import Mathlib.Data.Set.Function
import TextureGraph.Proofs.Document.Part

/-!
# Documents that are written differently

The textures of a document may be listed in any order and have any names. A document that
differs from another one in this alone becomes a table just if the other does, compiles just
if the other does, and its textures have the same values and as much code.
-/

namespace TextureGraph.Document

open Machine

/-- All names that the textures of a document mention. -/
def mentions (document : Document) : List String :=
  document.textures.flatMap TextureEntry.mentions

/-- The same textures in another order and under other names. Names that differ must not
become the same, be they of textures or of inputs. -/
structure Variant (document variant : Document) (newName : String → String) : Prop where
  settings_eq : variant.settings = document.settings
  images_eq : variant.images = document.images
  textures_perm : variant.textures.Perm (document.textures.map (·.rename newName))
  injective : Set.InjOn newName {name | name ∈ document.mentions}

variable {document variant : Document} {newName : String → String}

theorem mem_mentions_of_mem_names {name : String} (member : name ∈ document.names) :
    name ∈ document.mentions := by
  rcases List.mem_map.mp member with ⟨entry, entry_mem, rfl⟩
  exact List.mem_flatMap.mpr ⟨entry, entry_mem, List.mem_cons_self⟩

theorem mem_mentions_of_feeds {entry : TextureEntry} (member : entry ∈ document.textures)
    {source : String} (feeds : source ∈ entry.inputs.values) : source ∈ document.mentions :=
  List.mem_flatMap.mpr ⟨entry, member, List.mem_cons_of_mem _ feeds⟩

namespace Variant

theorem names_perm (isVariant : document.Variant variant newName) :
    variant.names.Perm (document.names.map newName) := by
  have perm := isVariant.textures_perm.map (·.name)
  rw [List.map_map] at perm
  rwa [names, names, List.map_map]

/-- What is written differently can be written as before. -/
theorem symm (isVariant : document.Variant variant newName) {oldName : String → String}
    (undone : ∀ name ∈ document.mentions, oldName (newName name) = name) :
    variant.Variant document oldName where
  settings_eq := isVariant.settings_eq.symm
  images_eq := isVariant.images_eq.symm
  textures_perm := by
    have back : (document.textures.map (·.rename newName)).map (·.rename oldName) =
        document.textures := by
      rw [List.map_map]
      refine (List.map_congr_left fun entry member => ?_).trans (List.map_id _)
      have fixed : ∀ name ∈ entry.mentions, (oldName ∘ newName) name = name :=
        fun name mentioned => undone name (List.mem_flatMap.mpr ⟨entry, member, mentioned⟩)
      exact (TextureEntry.rename_rename oldName).trans (TextureEntry.rename_eq_self fixed)
    have perm := (isVariant.textures_perm.map (·.rename oldName)).symm
    rwa [back] at perm
  injective := by
    have mentioned {name : String} (member : name ∈ variant.mentions) :
        ∃ original ∈ document.mentions, newName original = name := by
      rcases List.mem_flatMap.mp member with ⟨_, renamed_mem, member⟩
      rcases List.mem_map.mp (isVariant.textures_perm.mem_iff.mp renamed_mem) with
        ⟨entry, entry_mem, rfl⟩
      rw [TextureEntry.mentions_rename] at member
      rcases List.mem_map.mp member with ⟨original, original_mem, rfl⟩
      exact ⟨original, List.mem_flatMap.mpr ⟨entry, entry_mem, original_mem⟩, rfl⟩
    rintro _ first _ second same
    rcases mentioned first with ⟨a, a_mem, rfl⟩
    rcases mentioned second with ⟨b, b_mem, rfl⟩
    rw [undone a a_mem, undone b b_mem] at same
    rw [same]

/-- A document that can be ordered holds each document of which it is a variant. -/
theorem part (isVariant : document.Variant variant newName) (orderable : variant.Orderable) :
    document.Part variant newName where
  settings_eq := isVariant.settings_eq
  images_eq := isVariant.images_eq
  names_nodup := (isVariant.names_perm.nodup_iff.mp orderable.names_nodup).of_map
  rename_mem entry member :=
    isVariant.textures_perm.mem_iff.mpr (List.mem_map_of_mem member)
  sourcesKnown entry member source feeds := by
    have renamed_mem := isVariant.textures_perm.mem_iff.mpr (List.mem_map_of_mem member)
    have known := orderable.sourcesKnown _ renamed_mem _ (TextureEntry.feeds_rename feeds)
    rcases List.mem_map.mp (isVariant.names_perm.mem_iff.mp known) with ⟨name, name_mem, same⟩
    have name_eq := isVariant.injective (mem_mentions_of_mem_names name_mem)
      (mem_mentions_of_feeds member feeds) same
    rwa [name_eq] at name_mem

theorem exists_lower (isVariant : document.Variant variant newName) {other : Table}
    (lowered : variant.lower = .ok other) : ∃ table, document.lower = .ok table := by
  have lowerable := lowerable_of_lower lowered
  exact ((isVariant.part lowerable.orderable).lowerable lowerable).exists_lower

theorem exists_compile (isVariant : document.Variant variant newName)
    {other : Table × Program} (compiled : variant.compile = .ok other) :
    ∃ table, document.compile = .ok table := by
  have lowered := (compile_eq_ok_iff.mp compiled).1
  have isPart := isVariant.part (lowerable_of_lower lowered).orderable
  rcases isPart.exists_compile compiled with ⟨table, program, _, compiled, _⟩
  exact ⟨_, compiled⟩

/-- A document and a variant of it become tables together and compile together. Then each
texture has the same values in both, and its code is as long and needs as much of a stack. -/
theorem indistinguishable (isVariant : document.Variant variant newName) :
    ((∃ table, document.lower = .ok table) ↔ ∃ other, variant.lower = .ok other) ∧
    ((∃ result, document.compile = .ok result) ↔ ∃ other, variant.compile = .ok other) ∧
    (∀ table other, document.lower = .ok table → variant.lower = .ok other →
      ∀ entry ∈ document.textures, ∃ id otherId,
        table.find? entry.name = some id ∧ other.find? (newName entry.name) = some otherId ∧
        ∀ distance kind hit, ∃ value, table.evaluate distance id kind hit = .ok value ∧
          other.evaluate distance otherId kind hit = .ok value) ∧
    ∀ table program other otherProgram, document.compile = .ok (table, program) →
      variant.compile = .ok (other, otherProgram) →
      ∀ entry ∈ document.textures, ∃ id otherId,
        table.find? entry.name = some id ∧ other.find? (newName entry.name) = some otherId ∧
        ∀ kind, ∃ span otherSpan,
          program.span? id kind = some span ∧ otherProgram.span? otherId kind = some otherSpan ∧
          otherSpan.length = span.length ∧ otherSpan.stackDepth = span.stackDepth ∧
          ∀ hit, ∃ value, Answers document.settings program table id kind hit value ∧
            Answers variant.settings otherProgram other otherId kind hit value := by
  obtain ⟨oldName, undone⟩ : ∃ oldName : String → String,
      ∀ name ∈ document.mentions, oldName (newName name) = name :=
    ⟨_, isVariant.injective.leftInvOn_invFunOn⟩
  have isVariantBack := isVariant.symm undone
  refine ⟨⟨?_, ?_⟩, ⟨?_, ?_⟩, ?_, ?_⟩
  · rintro ⟨table, lowered⟩
    exact isVariantBack.exists_lower lowered
  · rintro ⟨other, lowered⟩
    exact isVariant.exists_lower lowered
  · rintro ⟨result, compiled⟩
    exact isVariantBack.exists_compile compiled
  · rintro ⟨other, compiled⟩
    exact isVariant.exists_compile compiled
  · intro table other lowered otherLowered entry member
    have represents := represents_of_lower lowered
    have otherRepresents := represents_of_lower otherLowered
    have isPart := isVariant.part (lowerable_of_lower otherLowered).orderable
    rcases represents.exists_find? member with ⟨id, found⟩
    refine ⟨id, _, found, isPart.find?_counterpart represents otherRepresents found, ?_⟩
    intro distance kind hit
    have wellFormed := represents.built.wellFormed
    have inside := Table.find?_lt_size found
    rcases wellFormed.exists_value inside distance kind hit with ⟨value, evaluated, _⟩
    have same := (isPart.relocation represents otherRepresents).evaluate_eq wellFormed
      otherRepresents.built.wellFormed inside distance kind hit
    exact ⟨value, evaluated, same.trans evaluated⟩
  · intro table program other otherProgram compiled otherCompiled entry member
    have otherLowered := (compile_eq_ok_iff.mp otherCompiled).1
    have isPart := isVariant.part (lowerable_of_lower otherLowered).orderable
    rcases isPart.exists_compile otherCompiled with ⟨_, _, move, again, located, answers⟩
    cases compiled.symm.trans again
    rcases answers entry member with ⟨id, found, answers⟩
    refine ⟨id, move id, found, located _ _ found, fun kind => ?_⟩
    rcases answers kind with ⟨code, span, otherSpan, places, otherPlaces, values⟩
    refine ⟨span, otherSpan, places.span?_eq, otherPlaces.span?_eq, ?_, ?_, values⟩
    · rw [places.length_eq, otherPlaces.length_eq, Code.renumber, List.length_map]
    · rw [places.stackDepth_eq, otherPlaces.stackDepth_eq, Code.renumber]

end Variant

/-- The same textures from the last to the first, all of them under new names. -/
theorem variant_doubled :
    doubled.Variant
      { doubled with textures := (doubled.textures.map (·.rename ("new " ++ ·))).reverse }
      ("new " ++ ·) where
  settings_eq := rfl
  images_eq := rfl
  textures_perm := List.reverse_perm _
  injective _ _ _ _ same := (String.append_right_inj _).mp same

theorem indistinguishable_doubled :
    ∃ variant newName, doubled.Variant variant newName ∧
      ∃ table program other otherProgram id otherId,
        doubled.compile = .ok (table, program) ∧ variant.compile = .ok (other, otherProgram) ∧
        table.find? "sum" = some id ∧ other.find? "new sum" = some otherId ∧
        ∃ span otherSpan, program.span? id .bump = some span ∧
          otherProgram.span? otherId .bump = some otherSpan ∧ otherSpan.length = span.length := by
  obtain ⟨_, compiles, _, agrees⟩ := variant_doubled.indistinguishable
  rcases exists_compile_doubled with ⟨table, program, compiled⟩
  obtain ⟨⟨other, otherProgram⟩, otherCompiled⟩ := compiles.mp ⟨_, compiled⟩
  obtain ⟨id, otherId, found, otherFound, spans⟩ :=
    agrees _ _ _ _ compiled otherCompiled doubled.textures[2] (List.getElem_mem _)
  obtain ⟨span, otherSpan, spanned, otherSpanned, length_eq, _⟩ := spans .bump
  exact ⟨_, _, variant_doubled, table, program, other, otherProgram, id, otherId, compiled,
    otherCompiled, found, otherFound, span, otherSpan, spanned, otherSpanned, length_eq⟩

end TextureGraph.Document
