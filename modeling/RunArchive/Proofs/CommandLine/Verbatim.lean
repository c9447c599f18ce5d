import RunArchive.Proofs.CommandLine.ExitCode
import RunArchive.Proofs.Json.Pretty
import RunArchive.Proofs.Query.Batch
import RunArchive.Proofs.Text.Validity

/-!
# Texts are printed verbatim

The source of a function and the trace of an error are kept as plain texts.  The lookup program
prints the text in such a file as the only member of an object, and the string that is read from
what it prints is made of the octets of the file: no octet is left out, added or changed.  Octets
that are no text are refused as undecodable, and then nothing is printed.
-/

namespace RunArchive

namespace ReadLimit

/-- What becomes of the octets of a file that should be a text. -/
theorem unbounded_text_eq (path : Path) (size : Nat) (octets : List UInt8) :
    unbounded.text path (.regular size (.whole octets)) =
      match Utf8.decode octets with
      | .ok characters => .ok (String.ofList characters)
      | .error fault => .error (.undecodable path (.encoding fault)) := rfl

end ReadLimit

namespace ArtifactKind

theorem content_of_text
    {kind : ArtifactKind} (textual : kind.form = .text) (codec : Codec) (limit : ReadLimit)
    (path : Path) (opened : Opened) :
    kind.content codec limit path opened = (limit.text path opened).map .string := by
  rw [content, textual]

end ArtifactKind

namespace Inspect

section Verbatim

variable {words : List String} {id : RunId} {kind : ArtifactKind}
  (asked : Command.parse words = .ok (.artifact id (.known kind)))
  (textual : kind = .functionString ∨ kind = .error)
  {environment : Environment} {workplace : EnvironmentFile.Workplace} {files : FileView}
  (configured : Configured environment workplace files .unbounded)
  {server : Server} {now : Instant} {record : StorageRecord}
  (found : server.result ((Server.repositories now).record id) = .ok (some record))
  {path : Path} (resolves : record.resolve kind = .ok path)
  {size : Nat} {octets : List UInt8} (stored : files path = .regular size (.whole octets))
include asked textual configured found resolves stored

/-- The outcome of asking for a text is made of what becomes of the octets of its file. -/
theorem run_text :
    run (Command.given words) environment workplace files server now =
      outcomeOf
        (match Utf8.decode octets with
        | .ok characters => .ok (.ok (.object [("data", .string (String.ofList characters))]))
        | .error fault => .error (.artifact ⟨kind, .undecodable path (.encoding fault)⟩)) := by
  have form : kind.form = .text := by rcases textual with rfl | rfl <;> rfl
  have plain (content : Json) : record.responseOf kind content = .data (some content) := by
    rcases textual with rfl | rfl <;> rfl
  rw [run_configured asked configured server now, result_answer]
  dsimp only
  rw [found, Lookup.found, ok_bind, StorageRecord.artifact_resolved _ resolves]
  dsimp only
  rw [ArtifactKind.content_of_text form, stored, ReadLimit.unbounded_text_eq]
  cases Utf8.decode octets with
  | error fault => rfl
  | ok characters => simp [Except.map, plain, Response.toJson]

/--
Asking for the source of a function or the trace of an error, without a limit, shows its file as it
is.

If the octets of the file are UTF-8, the program succeeds, and its output is read as an object with
one member, a string that is made of just these octets.  If they are not, the program fails with the
report of an undecodable file and prints nothing.
-/
theorem text_verbatim :
    (octets.toByteArray.IsValidUTF8 →
      (run (Command.given words) environment workplace files server now).exitCode = 0 ∧
      ∃ text : String, text.toByteArray = octets.toByteArray ∧
        Json.read 127
            (Utf8.ofString
              (run (Command.given words) environment workplace files server now).output) =
          .ok (.object [("data", .string text)])) ∧
    (¬ octets.toByteArray.IsValidUTF8 →
      ∃ detail : ErrorDetail,
        run (Command.given words) environment workplace files server now =
          .failure 5 (reportLine detail) ∧
        detail.location = ["path", "name"] ∧ detail.type? = some "decode_error") := by
  rw [run_text asked textual configured found resolves stored, ← Utf8.decodes_iff_isValidUTF8]
  constructor
  · rintro ⟨characters, read⟩
    rw [read]
    refine ⟨rfl, String.ofList characters, ?_, ?_⟩
    · rw [Utf8.toByteArray_eq_iff, Utf8.ofString, String.toList_ofList]
      exact Utf8.decode_eq_ok_iff.mp read
    · have normal : (Json.object [("data", .string (String.ofList characters))]).WellFormed :=
        ⟨List.pairwise_singleton _ _, trivial, trivial⟩
      have stable : (Json.object [("data", .string (String.ofList characters))]).Stable :=
        ⟨trivial, trivial⟩
      exact Json.read_line (Json.spells_prettyAt 0 _ normal stable) (by decide : 1 ≤ 127)
  · intro unread
    cases read : Utf8.decode octets with
    | ok characters => exact absurd ⟨characters, read⟩ unread
    | error fault => exact ⟨_, rfl, rfl, rfl⟩

end Verbatim

/-- A view with the trace of an error, whose metadata report nothing. -/
def traceView (octets : List UInt8) : FileView := fun path =>
  if path = .ofText "/work/error.log" then .regular 0 (.whole octets) else .refused .notFound

/-- A text with an octet order mark, control characters and a character of four octets. -/
def oddText : String := "\uFEFF\"\\ \r\n\t\u0000\u001F\u007F 😀 "

/-- An odd text comes through, and a letter in front of a surrogate does not. -/
theorem text_verbatim_odd :
    let asked := ["artifact", "--dispatch", firstText, "--name", ArtifactKind.error.name]
    let outcome (octets : List UInt8) :=
      run (Command.given asked) plainEnvironment bareWorkplace (traceView octets)
        ⟨[Service.workRow], [], 0⟩ .epoch
    (∃ text : String, text.toByteArray = (Utf8.ofString oddText).toByteArray ∧
      Json.read 127 (Utf8.ofString (outcome (Utf8.ofString oddText)).output) =
        .ok (.object [("data", .string text)])) ∧
    ∃ detail : ErrorDetail,
      outcome [0x61, 0xED, 0xA0, 0x80] = .failure 5 (reportLine detail) ∧
        detail.type? = some "decode_error" := by
  intro asked outcome
  have found :
      Server.result ⟨[Service.workRow], [], 0⟩
          ((Server.repositories .epoch).record Service.workRow.dispatchId) =
        .ok (some Service.workRow.described) :=
    Server.result_record .epoch Service.workRow.dispatchId
  have resolves : Service.workRow.described.resolve .error = .ok (.ofText "/work/error.log") := by
    rfl
  have stored (octets : List UInt8) :
      traceView octets (.ofText "/work/error.log") = .regular 0 (.whole octets) := by
    rfl
  have verbatim (octets : List UInt8) :=
    text_verbatim (parse_named parse_firstText .error) (.inr rfl) (configured_plain _) found
      resolves (stored octets)
  constructor
  · exact ((verbatim (Utf8.ofString oddText)).1 (.intro _ rfl)).2
  · have unread : ¬ [0x61, 0xED, 0xA0, 0x80].toByteArray.IsValidUTF8 := by
      rw [← Utf8.decodes_iff_isValidUTF8]
      rintro ⟨text, read⟩
      cases read
    rcases (verbatim [0x61, 0xED, 0xA0, 0x80]).2 unread with ⟨detail, failed, _, undecodable⟩
    exact ⟨detail, failed, undecodable⟩

end Inspect

end RunArchive
