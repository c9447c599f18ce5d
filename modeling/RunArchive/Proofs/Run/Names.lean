import Mathlib.Logic.Function.Basic
import RunArchive.Run.Artifact
import RunArchive.Run.Status

/-!
# Looking names up

States and kinds of artifacts are found by their own names and by no other text, since no two of
them have the same name.  What a text means as the name of an artifact follows from that.
-/

namespace RunArchive

/-- If everything is found by its name, then what is found is what has the name. -/
theorem find?_name_iff
    {Named : Type} {name : Named → String} {all : List Named}
    (own : ∀ item, all.find? (name · == name item) = some item) {text : String} {item : Named} :
    all.find? (name · == text) = some item ↔ name item = text := by
  constructor
  · intro found
    have named := List.find?_some found
    exact eq_of_beq named
  · rintro rfl
    exact own item

namespace RunStatus

theorem ofName?_name (status : RunStatus) : ofName? status.name = some status := by
  cases status <;> decide

theorem ofName?_eq_some_iff {text : String} {status : RunStatus} :
    ofName? text = some status ↔ status.name = text :=
  find?_name_iff ofName?_name

end RunStatus

namespace ArtifactKind

theorem ofName?_name (kind : ArtifactKind) : ofName? kind.name = some kind := by
  cases kind <;> decide

theorem ofName?_eq_some_iff {text : String} {kind : ArtifactKind} :
    ofName? text = some kind ↔ kind.name = text :=
  find?_name_iff ofName?_name

theorem name_injective : Function.Injective ArtifactKind.name := by
  intro left right same
  have known := ofName?_name left
  rw [same, ofName?_name] at known
  exact (Option.some.inj known).symm

end ArtifactKind

namespace ArtifactName

/-- A name means a text: it has that text, and it is known just if a kind has that name. -/
structure Means (name : ArtifactName) (text : String) : Prop where
  text_eq : name.text = text
  known_iff : (∃ kind, name = .known kind) ↔ ∃ kind : ArtifactKind, kind.name = text

theorem means_iff {name : ArtifactName} {text : String} :
    name.Means text ↔ name = .ofText text := by
  constructor
  · rintro ⟨same, known⟩
    cases name with
    | known kind =>
        have found : ArtifactKind.ofName? text = some kind :=
          ArtifactKind.ofName?_eq_some_iff.mpr same
        rw [ofText, found]
    | unrecognized other =>
        have same : other = text := same
        rw [← same] at known ⊢
        have unnamed : ArtifactKind.ofName? other = none := by
          rw [Option.eq_none_iff_forall_ne_some]
          intro kind found
          have named := ArtifactKind.ofName?_eq_some_iff.mp found
          rcases known.mpr ⟨kind, named⟩ with ⟨_, ⟨⟩⟩
        rw [ofText, unnamed]
  · rintro rfl
    rw [ofText]
    cases found : ArtifactKind.ofName? text with
    | some kind =>
        have named := ArtifactKind.ofName?_eq_some_iff.mp found
        exact ⟨named, fun _ => ⟨kind, named⟩, fun _ => ⟨kind, rfl⟩⟩
    | none =>
        refine ⟨rfl, ?_, ?_⟩
        · rintro ⟨_, ⟨⟩⟩
        · rintro ⟨kind, named⟩
          rw [ArtifactKind.ofName?_eq_some_iff.mpr named] at found
          cases found

end ArtifactName

end RunArchive
