/-
EndpointCatalog.Remote.Locator — where sources are to be found.

* `isRemote` tells URLs from local directories.
* `GithubRepository.ofUrl?` reads owner, repository and ref off the URL of a
  GitHub page.
-/
import EndpointCatalog.Remote.Url

namespace EndpointCatalog.Remote

/-- Whether a locator is a URL. -/
def isRemote (locator : String) : Bool :=
  "http://".toList.isPrefixOf locator.toList || "https://".toList.isPrefixOf locator.toList

/-- A repository on GitHub, and the ref that is asked for. -/
structure GithubRepository where
  owner : String
  name : String
  ref : Option String
deriving DecidableEq, Repr

namespace GithubRepository

/-- The hosts of GitHub pages. -/
def hosts : List String := ["github.com", "www.github.com"]

/-- A name without the suffix `.git`. -/
def withoutSuffix (name : List Char) : List Char :=
  if ".git".toList.isSuffixOf name then name.take (name.length - 4) else name

/-- The ref that the segments behind a repository name. -/
def refOf? (segments : List (List Char)) : Option String :=
  match segments with
  | first :: second :: rest =>
    if String.ofList first = "tree" then some (String.ofList (joinWith ['/'] (second :: rest)))
    else none
  | _ => none

/-- The repository that a URL names; `none` if it is no page of a GitHub repository. -/
def ofUrl? (locator : String) : Except UrlError (Option GithubRepository) := do
  let url ← Url.ofString locator
  match url.host? with
  | none => pure none
  | some host =>
    if hosts.contains (String.ofList host) then
      match (splitAt (· == '/') url.path).filter (!·.isEmpty) with
      | owner :: name :: rest =>
        pure (some ⟨String.ofList owner, String.ofList (withoutSuffix name), refOf? rest⟩)
      | _ => pure none
    else pure none

end GithubRepository

end EndpointCatalog.Remote
