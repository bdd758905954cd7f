import OriginServer.Files.Provider
import OriginServer.Proofs.Message.HeaderLines

/-!
# What loading a file does

Loading a path makes a row of changes to a response, which does not depend on the response
(`FileProvider.exists_loads`): none if there is no file to be read, and else a status, a media type,
a date and the content of the file, except that a file without a date breaks the work off before its
date is set.
-/
namespace OriginServer.FileProvider

/-- The changes that loading a path makes to a response, and how it ends. -/
inductive Loads (provider : FileProvider) (path : String) :
    List Response.Change → Ending → Prop where
  /-- The path is mapped nowhere. -/
  | unmapped (nowhere : target? provider.root path = none) :
      Loads provider path [] (.failed (.notFound path))
  /-- There is no file that can be read. -/
  | unread {target : Bytes} {error : LookupError}
      (mapped : target? provider.root path = some target)
      (unread : provider.tree.read target = .error error) :
      Loads provider path [] (.failed (lookupFailure path target error))
  /-- The file was changed at an instant without a date. -/
  | undated {target content : Bytes} {modified : Int}
      (mapped : target? provider.root path = some target)
      (found : provider.tree.read target = .ok (content, modified))
      (undated : HeaderDate.ofSeconds? modified = none) :
      Loads provider path
        [.setStatus .ok, .setHeader "Content-Type" (MediaType.ofPath target)] .aborted
  /-- The file is put into the response. -/
  | filled {target content : Bytes} {modified : Int} {date : HeaderDate}
      (mapped : target? provider.root path = some target)
      (found : provider.tree.read target = .ok (content, modified))
      (dated : HeaderDate.ofSeconds? modified = some date) :
      Loads provider path
        [.setStatus .ok, .setHeader "Content-Type" (MediaType.ofPath target),
          .setHeader "Last-Modified" date.format, .setBody content] .done

variable {provider : FileProvider} {path : String} {changes : List Response.Change}
variable {ending : Ending}

/-- Loading a path makes the same changes to every response, and ends in the same way. -/
theorem exists_loads (provider : FileProvider) (path : String) :
    ∃ changes ending, Loads provider path changes ending ∧ ∀ response,
      (provider.load path response).response = changes.foldl Response.Change.apply response ∧
        (provider.load path response).ending = ending := by
  cases mapped : target? provider.root path with
  | none => exact ⟨_, _, .unmapped mapped, fun response => by simp [load, mapped]⟩
  | some target =>
    cases found : provider.tree.read target with
    | error error =>
      exact ⟨_, _, .unread mapped found, fun response => by simp [load, mapped, found]⟩
    | ok file =>
      obtain ⟨content, modified⟩ := file
      cases dated : HeaderDate.ofSeconds? modified with
      | none =>
        refine ⟨_, _, .undated mapped found dated, fun response => ?_⟩
        simp [load, mapped, found, fill, dated, Response.Change.apply]
      | some date =>
        refine ⟨_, _, .filled mapped found dated, fun response => ?_⟩
        simp [load, mapped, found, fill, dated, Response.Change.apply]

/-- What hinders reading a file does not blame the stream. -/
theorem logical_lookupFailure (path : String) (target : Bytes) (error : LookupError) :
    (lookupFailure path target error).isTransport = false := by
  cases error <;> rfl

/-- Loading a path sets no header of more than one line. -/
theorem Loads.single (loads : Loads provider path changes ending) :
    ∀ change ∈ changes, change.Single := by
  have typed : ∀ target, (Response.Change.setHeader "Content-Type"
      (MediaType.ofPath target)).Single :=
    fun target => ⟨by decide +kernel, (MediaType.plain_ofPath target).unbroken⟩
  have announced : (Response.Change.setStatus .ok).Single := trivial
  cases loads with
  | unmapped nowhere => simp
  | unread mapped unread => simp
  | undated mapped found undated => simp [announced, typed]
  | @filled _ content _ date mapped found dated =>
    have dated : (Response.Change.setHeader "Last-Modified" date.format).Single :=
      ⟨by decide +kernel, date.plain_format.unbroken⟩
    have filled : (Response.Change.setBody content).Single := trivial
    simp [announced, typed, dated, filled]

/-- Loading a path neither looks at the decision on sending the body nor changes it. -/
theorem Loads.setIncludeBody (loads : Loads provider path changes ending) (response : Response)
    (included : Bool) :
    changes.foldl Response.Change.apply (response.setIncludeBody included) =
      (changes.foldl Response.Change.apply response).setIncludeBody included := by
  cases loads with
  | unmapped nowhere => rfl
  | unread mapped unread => rfl
  | undated mapped found undated => rfl
  | filled mapped found dated => rfl

end OriginServer.FileProvider
