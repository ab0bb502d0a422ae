/-
EndpointCatalog.Proofs.Acquisition.Source — which source is asked for.

A run with a token asks for an archive, one without a token for a clone.
`Request.repository?` reads the repository and the ref off either request.
The archive is that of the repository that the locator names
(`ofArchiveUrl?_archiveUrl`). The clone is given the locator as it is and
no branch, so that it is one of this repository only if the locator is
its plain address (`acquisition_sources`): no page below it, no ref, no
query and no fragment.
-/
import EndpointCatalog.Proofs.Acquisition
import EndpointCatalog.Proofs.Acquisition.Page
import Mathlib

namespace EndpointCatalog.Remote

open Url

variable {settings : Settings} {locator : String}

/-! ## The archive of a repository -/

/-- The repository and the ref whose archive a page of the API is. -/
def GithubRepository.ofArchiveUrl? (settings : Settings) (url : String) :
    Option GithubRepository :=
  let base := (settings.githubApi ++ "/repos/").toList
  if base.isPrefixOf url.toList then
    match splitAt (· == '/') (url.toList.drop base.length) with
    | owner :: name :: page :: ref =>
      if page = "tarball".toList then
        some ⟨String.ofList owner, String.ofList name,
          if ref = [] then none else some (String.ofList (joinWith ['/'] ref))⟩
      else none
    | _ => none
  else none

/-- The page with the archive of a repository is read as such, its ref included. -/
theorem GithubRepository.ofArchiveUrl?_archiveUrl {repository : GithubRepository}
    (howner : '/' ∉ repository.owner.toList) (hname : '/' ∉ repository.name.toList) :
    ofArchiveUrl? settings (archiveUrl settings repository) = some repository := by
  have hspelled : (archiveUrl settings repository).toList =
      (settings.githubApi ++ "/repos/").toList ++ (repository.owner.toList ++ '/' ::
        (repository.name.toList ++ '/' ::
          ("tarball".toList ++ repository.ref.elim [] ('/' :: ·.toList)))) := by
    cases href : repository.ref <;> simp [archiveUrl, href]
  have hpage : '/' ∉ "tarball".toList := by decide
  have hsplit : splitAt (· == '/')
      ("tarball".toList ++ repository.ref.elim [] ('/' :: ·.toList)) =
        "tarball".toList :: repository.ref.elim [] (splitAt (· == '/') ·.toList) := by
    cases repository.ref with
    | none => simpa using splitAt_of_no_separator (beq_eq_false_of_not_mem hpage)
    | some ref => exact splitAt_append_separator (beq_eq_false_of_not_mem hpage) rfl
  simp only [ofArchiveUrl?, hspelled, List.drop_left,
    splitAt_append_separator (beq_eq_false_of_not_mem howner) (beq_self_eq_true '/'),
    splitAt_append_separator (beq_eq_false_of_not_mem hname) (beq_self_eq_true '/'), hsplit]
  rw [if_pos (by simp)]
  have hslash : ∀ c : Char, (c == '/') = true → c = '/' := fun _ => beq_iff_eq.1
  cases hrepository : repository with
  | mk owner name ref =>
    cases ref with
    | none => simp
    | some ref => simp [splitAt_ne_nil, joinWith_splitAt hslash]

/-- Owner and name of a repository that is read stood between two slashes. -/
theorem GithubRepository.no_slash_of_ofUrl? {repository : GithubRepository}
    (h : ofUrl? locator = .ok (some repository)) :
    '/' ∉ repository.owner.toList ∧ '/' ∉ repository.name.toList := by
  obtain ⟨url, -, hnames⟩ := of_ofUrl? h
  have hno : ∀ name ∈ namesOn url.path, '/' ∉ name := by
    intro name hname hslash
    have hpiece := (List.mem_filter.1 hname).1
    exact absurd (not_separator_of_mem_splitAt hpiece '/' hslash) (by simp)
  unfold ofNames? at hnames
  split at hnames
  · next owner name rest hsplit =>
    rw [hsplit] at hno
    cases hnames
    simp only [String.toList_ofList]
    exact ⟨hno owner (by simp), fun hmem => hno name (by simp) (mem_of_mem_withoutSuffix hmem)⟩
  · cases hnames

/-! ## The source of a clone -/

/-- A source that is to be cloned, and its branch if that is not to be the default one. -/
structure CloneRequest where
  url : String
  branch? : Option String
deriving DecidableEq, Repr

namespace CloneRequest

/-- What the arguments of a clone ask for: options come first, then the source and the place of its
copy. -/
def ofArguments? (branch? : Option String) : List String → Option CloneRequest
  | first :: second :: rest =>
    if first = "--depth" then ofArguments? branch? rest
    else if first = "--branch" then ofArguments? (some second) rest
    else if first = "--quiet" then ofArguments? branch? (second :: rest)
    else if first.toList.head? = some '-' then none
    else if rest = [] then some ⟨first, branch?⟩
    else none
  | _ => none

/-- What a command asks to be cloned. -/
def ofCommand? : List String → Option CloneRequest
  | program :: subcommand :: arguments =>
    if program = "git" ∧ subcommand = "clone" then ofArguments? none arguments else none
  | _ => none

/-- The protocols of the addresses that can be cloned, as they begin an address. -/
def protocols : List String := ["ssh:", "git:", "http:", "https:", "ftp:", "ftps:"]

/-- Owner and name, if there is nothing else. -/
def ofTwoNames? : List (List Char) → Option (String × String)
  | [owner, name] =>
    some (String.ofList owner, String.ofList (GithubRepository.withoutSuffix name))
  | _ => none

/-- Owner and name of the repository whose address a URL is: its path has nothing else. -/
def addressed? (url : String) : Option (String × String) :=
  match splitAt (· == '/') url.toList with
  | protocol :: [] :: authority :: pieces =>
    if protocols.contains (String.ofList protocol) &&
        (host? ⟨[], authority, []⟩).any fun host =>
          GithubRepository.hosts.contains (String.ofList host) then
      ofTwoNames? (pieces.filter (!·.isEmpty))
    else none
  | _ => none

/-- The repository on GitHub that is to be cloned. -/
def repository? (request : CloneRequest) : Option GithubRepository :=
  (addressed? request.url).map fun (owner, name) => ⟨owner, name, request.branch?⟩

/-! ### The command -/

/-- Of a command that clones a URL, this URL and no branch is read, unless the URL looks like an
option. -/
theorem ofCommand?_cloneCommand {url : String} (hdash : url.toList.head? ≠ some '-')
    (destination : Path) : ofCommand? (cloneCommand url none destination) = some ⟨url, none⟩ := by
  have hoption (option : String) (hoption : option.toList.head? = some '-') : url ≠ option := by
    rintro rfl
    exact hdash hoption
  have hdepth : url ≠ "--depth" := hoption _ (by decide)
  have hbranch : url ≠ "--branch" := hoption _ (by decide)
  have hquiet : url ≠ "--quiet" := hoption _ (by decide)
  simp [cloneCommand, ofCommand?, ofArguments?, hdepth, hbranch, hquiet, hdash]

/-- No option is the URL of a page: it has no host. -/
theorem head?_ne_dash {repository : GithubRepository}
    (h : GithubRepository.ofUrl? locator = .ok (some repository)) :
    locator.toList.head? ≠ some '-' := by
  intro hdash
  obtain ⟨cs, hcs⟩ := List.head?_eq_some_iff.1 hdash
  obtain ⟨rest, hcleaned⟩ : ∃ rest, cleaned locator.toList = '-' :: rest := by
    rw [hcs]
    exact ⟨_, rfl⟩
  have hscheme : splitScheme ('-' :: rest) = ([], '-' :: rest) := by
    simp [splitScheme, cutAt, Char.isAlpha, Char.isUpper, Char.isLower]
  have hauthority : splitAuthority ('-' :: rest) = ([], '-' :: rest) := by
    simp [splitAuthority]
  have hurl : ∃ path, Url.ofString locator = .ok ⟨[], [], path⟩ := by
    rw [Url.ofString, hcleaned, hscheme]
    simp only [hauthority]
    exact ⟨_, rfl⟩
  obtain ⟨path, hurl⟩ := hurl
  have hnone : host? ⟨[], [], path⟩ = none := rfl
  rw [GithubRepository.ofUrl?_of_url hurl, hnone] at h
  cases h

/-! ### The address -/

/-- The address of a repository: behind the host it has nothing but owner and name, with slashes
around them. -/
structure Address where
  protocol : String
  authority : List Char
  owner : List Char
  /-- The name, with or without the suffix `.git`. -/
  name : List Char
  doubled : Nat → Nat
  closing : Nat

namespace Address

/-- An address as it is written. -/
def text (address : Address) : String :=
  String.ofList (address.protocol.toList ++ "//".toList ++ address.authority ++
    spelledPath address.doubled [address.owner, address.name] ++
    List.replicate address.closing '/')

/-- What makes an address one on GitHub. -/
structure WellFormed (address : Address) : Prop where
  protocol : address.protocol ∈ protocols
  authority : '/' ∉ address.authority
  host : ∃ host, host? ⟨[], address.authority, []⟩ = some host ∧
    String.ofList host ∈ GithubRepository.hosts
  owner : address.owner ≠ [] ∧ '/' ∉ address.owner
  name : address.name ≠ [] ∧ '/' ∉ address.name

/-- The repository at an address. -/
def repository (address : Address) : GithubRepository where
  owner := String.ofList address.owner
  name := String.ofList (GithubRepository.withoutSuffix address.name)
  ref := none

end Address

theorem ofTwoNames?_eq_some {names : List (List Char)} {owner name : String}
    (h : ofTwoNames? names = some (owner, name)) : ∃ ownerText nameText,
      names = [ownerText, nameText] ∧ String.ofList ownerText = owner ∧
      String.ofList (GithubRepository.withoutSuffix nameText) = name := by
  unfold ofTwoNames? at h
  split at h
  · next ownerText nameText =>
    cases h
    exact ⟨ownerText, nameText, rfl, rfl, rfl⟩
  · cases h

theorem not_mem_protocol {protocol : String} (h : protocol ∈ protocols) :
    '/' ∉ protocol.toList := by
  revert protocol
  decide

/-- Pieces with slashes in front of them are the names among them, and slashes. -/
theorem exists_spelledPath (pieces : List (List Char)) : ∃ doubled closing,
    pieces.flatMap ('/' :: ·) =
      spelledPath doubled (pieces.filter (!·.isEmpty)) ++ List.replicate closing '/' := by
  induction pieces with
  | nil => exact ⟨fun _ => 0, 0, rfl⟩
  | cons piece pieces ih =>
    obtain ⟨doubled, closing, hpieces⟩ := ih
    rw [List.flatMap_cons, hpieces]
    by_cases hempty : piece = []
    · -- a slash more in front of the next name, or at the end
      rw [hempty, List.filter_cons_of_neg (by simp)]
      cases pieces.filter (!·.isEmpty) with
      | nil => exact ⟨doubled, closing + 1, by simp [spelledPath, List.replicate_succ]⟩
      | cons name names =>
        refine ⟨fun i => if i = 0 then doubled 0 + 1 else doubled i, closing, ?_⟩
        simp [spelledPath, List.replicate_succ]
    · rw [List.filter_cons_of_pos (by simpa using hempty)]
      exact ⟨fun i => if i = 0 then 0 else doubled (i - 1), closing, by simp [spelledPath]⟩

theorem addressed?_spelled {protocol : String} {authority path : List Char} {url : String}
    (hurl : url.toList = protocol.toList ++ "//".toList ++ authority ++ '/' :: path)
    (hprotocol : protocol ∈ protocols) (hauthority : '/' ∉ authority) : addressed? url =
      if (host? ⟨[], authority, []⟩).any fun host =>
        GithubRepository.hosts.contains (String.ofList host) then
      ofTwoNames? (namesOn ('/' :: path)) else none := by
  have hsplit : splitAt (· == '/') url.toList =
      protocol.toList :: [] :: authority :: splitAt (· == '/') path := by
    have hparts : url.toList =
        protocol.toList ++ '/' :: ([] ++ '/' :: (authority ++ '/' :: path)) := by
      simp [hurl]
    rw [hparts,
      splitAt_append_separator (beq_eq_false_of_not_mem (not_mem_protocol hprotocol)) (by simp),
      splitAt_append_separator (by simp) (by simp),
      splitAt_append_separator (beq_eq_false_of_not_mem hauthority) (by simp)]
  rw [addressed?, hsplit]
  simp only [String.ofList_toList, List.contains_iff_mem.2 hprotocol, Bool.true_and]
  rw [namesOn_slash]
  rfl

theorem Address.WellFormed.addressed?_text {address : Address} (h : address.WellFormed) :
    addressed? address.text = some (String.ofList address.owner,
      String.ofList (GithubRepository.withoutSuffix address.name)) := by
  obtain ⟨host, hhost, hgithub⟩ := h.host
  have hnames : ∀ name ∈ [address.owner, address.name], name ≠ [] ∧ '/' ∉ name := by
    simpa using ⟨h.owner, h.name⟩
  have hpath := namesOn_spelledPath address.doubled hnames (head?_replicate address.closing)
  obtain ⟨path, hslash⟩ : ∃ path, spelledPath address.doubled [address.owner, address.name] ++
      List.replicate address.closing '/' = '/' :: path :=
    ⟨_, by rw [spelledPath, List.replicate_succ, List.cons_append]; rfl⟩
  have hurl : address.text.toList =
      address.protocol.toList ++ "//".toList ++ address.authority ++ '/' :: path := by
    rw [text, String.toList_ofList, List.append_assoc _ (spelledPath _ _), hslash]
  rw [addressed?_spelled hurl h.protocol h.authority, hhost, Option.any_some,
    if_pos (List.contains_iff_mem.2 hgithub), ← hslash, hpath, namesOn_replicate]
  rfl

/-- A URL with the parts of an address is written as one. -/
theorem exists_address {url : String} {protocol authority owner name : List Char}
    {pieces : List (List Char)}
    (hsplit : splitAt (· == '/') url.toList = protocol :: [] :: authority :: pieces)
    (hnames : pieces.filter (!·.isEmpty) = [owner, name])
    (hprotocol : String.ofList protocol ∈ protocols)
    (hhost : ∃ host, host? ⟨[], authority, []⟩ = some host ∧
      String.ofList host ∈ GithubRepository.hosts) :
    ∃ address : Address, address.WellFormed ∧ address.text = url ∧ address.owner = owner ∧
      address.name = name := by
  have hno : ∀ piece ∈ protocol :: [] :: authority :: pieces, '/' ∉ piece := by
    rw [← hsplit]
    intro piece hmem hslash
    exact absurd (not_separator_of_mem_splitAt hmem '/' hslash) (by simp)
  have hmem : ∀ piece ∈ [owner, name], piece ≠ [] ∧ '/' ∉ piece := by
    rw [← hnames]
    intro piece hpiece
    obtain ⟨hpiece, hne⟩ := List.mem_filter.1 hpiece
    exact ⟨by simpa using hne, hno piece (by simp [hpiece])⟩
  have hurl : url.toList = protocol ++ "//".toList ++ authority ++ pieces.flatMap ('/' :: ·) := by
    rw [← joinWith_splitAt (fun c hc => (beq_iff_eq.1 hc : c = '/')) url.toList, hsplit]
    simp [joinWith_cons]
  obtain ⟨doubled, closing, hpath⟩ := exists_spelledPath pieces
  rw [hnames] at hpath
  refine ⟨⟨String.ofList protocol, authority, owner, name, doubled, closing⟩,
    ⟨hprotocol, hno authority (by simp), hhost, hmem owner (by simp), hmem name (by simp)⟩,
    ?_, rfl, rfl⟩
  rw [Address.text, String.toList_ofList, List.append_assoc _ (spelledPath _ _), ← hpath, ← hurl,
    String.ofList_toList]

/-- A URL is read as the address of a repository if it is written as one. -/
theorem addressed?_eq_some_iff {url owner name : String} : addressed? url = some (owner, name) ↔
    ∃ address : Address, address.WellFormed ∧ address.text = url ∧
      String.ofList address.owner = owner ∧
      String.ofList (GithubRepository.withoutSuffix address.name) = name := by
  constructor
  · intro h
    rw [addressed?] at h
    split at h
    · next protocol authority pieces hsplit =>
      split at h
      · next hknown =>
        rw [Bool.and_eq_true, List.contains_iff_mem, Option.any_eq_true_iff_get] at hknown
        obtain ⟨hprotocol, hsome, hhost⟩ := hknown
        obtain ⟨ownerText, nameText, hnames, rfl, rfl⟩ := ofTwoNames?_eq_some h
        obtain ⟨address, hformed, htext, rfl, rfl⟩ := exists_address hsplit hnames hprotocol
          ⟨_, (Option.some_get hsome).symm, List.contains_iff_mem.1 hhost⟩
        exact ⟨address, hformed, htext, rfl, rfl⟩
      · cases h
    · cases h
  · rintro ⟨address, hformed, rfl, rfl, rfl⟩
    exact hformed.addressed?_text

/-- A clone without a branch is one of a repository if its URL is an address of this repository. -/
theorem repository?_iff {url : String} {repository : GithubRepository} :
    CloneRequest.repository? ⟨url, none⟩ = some repository ↔
      ∃ address : Address, address.WellFormed ∧ address.text = url ∧
        address.repository = repository := by
  obtain ⟨owner, name, ref⟩ := repository
  constructor
  · intro h
    obtain ⟨⟨ownerRead, nameRead⟩, hread, hsame⟩ := Option.map_eq_some_iff.1 h
    cases hsame
    obtain ⟨address, hformed, htext, howner, hname⟩ := addressed?_eq_some_iff.1 hread
    exact ⟨address, hformed, htext, by rw [Address.repository, howner, hname]⟩
  · rintro ⟨address, hformed, rfl, hsame⟩
    rw [repository?, hformed.addressed?_text, ← hsame]
    rfl

end CloneRequest

/-- The repository and the ref that a request is for. -/
def Request.repository? (settings : Settings) : Request → Option GithubRepository
  | .fetch url _ _ => GithubRepository.ofArchiveUrl? settings url
  | .run command _ => (CloneRequest.ofCommand? command).bind CloneRequest.repository?

/-! ## What a run asks for -/

section Runs

variable {before : Session} {outside : Outside} {requests : List Request} {token : Option String}

/-- The requests of a session. -/
def Asked (requests : List Request) (s : Session) : Prop := s.requests = requests

theorem ensures_disk {P : Session → Prop} : Ensures P P Acting.disk := fun _ h => h

theorem ensures_setDisk (d : Disk) :
    Ensures (Asked requests) (Asked requests) (Acting.setDisk d) :=
  Ensures.modify fun _ h => h

theorem asked_request (r : Request) :
    Ensures (Asked requests) (Asked (requests ++ [r])) (Acting.request r) :=
  Ensures.modify fun _ h => congrArg (· ++ [r]) h

theorem asked_placeCopy (destination : Path) (copy : Option FileNode) :
    Ensures (Asked requests) (Asked requests) (placeCopy destination copy) := by
  cases copy with
  | none => exact Ensures.pure fun _ h => h
  | some node =>
    refine Ensures.bind ensures_disk ?_ fun _ h => h
    intro d
    split
    · exact Ensures.throw fun _ h => h
    · exact ensures_setDisk _

theorem asked_unpackArchive (title : String) (body : List UInt8) (workdir : Path) :
    Ensures (Asked requests) (Asked requests) (unpackArchive title body workdir) := by
  unfold unpackArchive
  split
  · exact Ensures.throw fun _ h => h
  · exact Ensures.throw fun _ h => h
  · refine Ensures.bind ensures_disk ?_ fun _ h => h
    intro d
    split
    · exact ensures_setDisk _
    · refine Ensures.bind (ensures_setDisk _) ?_ fun _ h => h
      intro _
      exact Ensures.throw fun _ h => h

/-- Cloning asks for one thing, whatever comes of it. -/
theorem asked_clone (url : String) (destination : Path) :
    Ensures (Asked requests)
      (Asked (requests ++ [.run (cloneCommand url token destination) settings.cloneTimeout]))
      (clone outside settings url token destination) := by
  unfold clone
  refine Ensures.bind (asked_request _) ?_ fun _ h => h
  intro _
  split
  · exact Ensures.throw fun _ h => h
  · exact Ensures.throw fun _ h => h
  · refine Ensures.bind (asked_placeCopy _ _) ?_ fun _ h => h
    intro _
    split
    · exact Ensures.pure fun _ h => h
    · exact Ensures.throw fun _ h => h

/-- Downloading asks for one thing, whatever comes of it. -/
theorem asked_download (repository : GithubRepository) (secret : String) (workdir : Path) :
    Ensures (Asked requests)
      (Asked (requests ++
        [.fetch (archiveUrl settings repository) (archiveHeaders secret) settings.httpTimeout]))
      (download outside settings repository secret workdir) := by
  unfold download
  refine Ensures.bind (asked_request _) ?_ fun _ h => h
  intro _
  split
  · exact Ensures.throw fun _ h => h
  · split
    · exact Ensures.throw fun _ h => h
    · refine Ensures.bind (asked_unpackArchive _ _ _) ?_ fun _ h => h
      intro _
      exact Ensures.bind ensures_disk (fun _ => Ensures.pure fun _ h => h) fun _ h => h

/-- A run that can make its directory asks for what its fetching asks for. -/
theorem requests_acquire {d : Disk} {request : Request}
    (hmade : before.disk.makeDirectory (temporaryPath before (before.made + 1)) = .ok d)
    (hfetch : Ensures (Asked before.requests) (Asked (before.requests ++ [request]))
      (fetchInto outside settings locator token (temporaryPath before (before.made + 1)))) :
    ((ExceptT.run (acquire outside settings locator token)).run before).2.requests =
      before.requests ++ [request] := by
  simp only [acquire, run_bind, run_makeTemporary, hmade, run_log, run_onFailure]
  generalize hs : ({ before with
    made := before.made + 1, disk := d, log := before.log ++ [⟨.info, _⟩] } : Session) = s
  have hasked : Asked before.requests s := by
    rw [← hs]
    rfl
  have hrequests := hfetch s hasked
  revert hrequests
  obtain ⟨ending, next⟩ := (ExceptT.run (fetchInto outside settings locator token
    (temporaryPath before (before.made + 1)))).run s
  intro hrequests
  cases ending with
  | ok root => exact hrequests
  | error e =>
    simp only [run_removeQuietly]
    exact hrequests

end Runs

/-! ## The two sources -/

/-- A page of a repository is its plain address if it shows no ref and no other part of it, and is
read whole. -/
def GithubPage.IsPlain (page : GithubPage) : Prop :=
  page.ref = [] ∧ page.query? = none ∧ page.fragment? = none ∧
    (page.closing ≠ 0 ∨ ';' ∉ page.lastSegment)

namespace GithubPage

variable {page : GithubPage} {repository : GithubRepository}

theorem WellFormed.addressed?_text (h : page.WellFormed) : CloneRequest.addressed? page.text =
    CloneRequest.ofTwoNames? (namesOn (page.path ++ page.tail)) := by
  obtain ⟨path, hpath⟩ : ∃ path, page.path ++ page.tail = '/' :: path := by
    rw [GithubPage.path, GithubPage.segments, spelledPath, List.replicate_succ]
    exact ⟨_, rfl⟩
  have hprotocol : String.ofList (webScheme page.isSecure ++ [':']) ∈ CloneRequest.protocols := by
    cases page.isSecure <;> decide
  have hauthority : '/' ∉ page.authority := not_mem_of_isPathChar h.authority_chars (by decide)
  have hurl : page.text.toList = (String.ofList (webScheme page.isSecure ++ [':'])).toList ++
      "//".toList ++ page.authority ++ '/' :: path := by
    rw [← hpath]
    simp [text]
  have hgithub : GithubRepository.hosts.contains
      (String.ofList (page.host.map Char.toLower)) = true := List.contains_iff_mem.2 h.host
  rw [CloneRequest.addressed?_spelled hurl hprotocol hauthority, h.host?_eq, Option.any_some,
    if_pos hgithub, ← hpath]

theorem WellFormed.namesOn_whole_path (h : page.WellFormed) :
    namesOn page.path = page.segments := by
  have hsegments : ∀ segment ∈ page.segments, segment ≠ [] ∧ '/' ∉ segment :=
    fun segment hmem => ⟨(h.segments segment hmem).1, h.no_slash segment hmem⟩
  rw [GithubPage.path, namesOn_spelledPath page.doubled hsegments (head?_replicate page.closing),
    namesOn_replicate, List.append_nil]

/-- What is read of a page consists of characters of paths. -/
theorem WellFormed.repository_chars (h : page.WellFormed)
    (hread : GithubRepository.ofUrl? page.text = .ok (some repository)) :
    (∀ c ∈ repository.owner.toList, isPathChar c = true) ∧
      ∀ c ∈ repository.name.toList, isPathChar c = true := by
  have hnames := h.names_chars
  rw [h.ofUrl?_text, Except.ok.injEq] at hread
  unfold GithubRepository.ofNames? at hread
  split at hread
  · next owner name rest hsplit =>
    rw [hsplit] at hnames
    cases hread
    simp only [String.toList_ofList]
    exact ⟨hnames owner (by simp),
      fun c hc => hnames name (by simp) c (GithubRepository.mem_of_mem_withoutSuffix hc)⟩
  · cases hread

/-- A page below which nothing else stands has no query and no fragment. -/
theorem WellFormed.tail_eq_nil (h : page.WellFormed)
    (hread : GithubRepository.ofUrl? page.text = .ok (some repository)) {owner name : List Char}
    (hnames : namesOn (page.path ++ page.tail) = [owner, name])
    (howner : String.ofList owner = repository.owner)
    (hname : String.ofList (GithubRepository.withoutSuffix name) = repository.name) :
    page.tail = [] := by
  by_contra hne
  obtain ⟨c, cs, htail⟩ := List.exists_cons_of_ne_nil hne
  have hc : isPathChar c = false ∧ c ≠ '/' ∧ c ∉ ".git".toList := by
    rcases page.endsPath_tail c (by simp [htail]) with rfl | rfl <;> decide
  obtain ⟨howners, hchars⟩ := h.repository_chars hread
  rw [← howner, String.toList_ofList] at howners
  rw [← hname, String.toList_ofList] at hchars
  have hpage : c ∈ page.path ++ page.tail := by simp [htail]
  obtain ⟨piece, hpiece, hmem⟩ := exists_mem_namesOn hpage hc.2.1
  rw [hnames] at hpiece
  have hread : isPathChar c = true := by
    rcases List.mem_pair.1 hpiece with rfl | rfl
    · exact howners c hmem
    · exact hchars c (GithubRepository.mem_withoutSuffix_of_mem hmem hc.2.2)
  rw [hc.1] at hread
  cases hread

/-- A clone of a page is one of the repository that the page is read as, if it is plain. -/
theorem WellFormed.repository?_iff (h : page.WellFormed)
    (hread : GithubRepository.ofUrl? page.text = .ok (some repository)) :
    CloneRequest.repository? ⟨page.text, none⟩ = some repository ↔ page.IsPlain := by
  constructor
  · intro hclone
    obtain ⟨⟨ownerRead, nameRead⟩, hread', hsame⟩ := Option.map_eq_some_iff.1 hclone
    rw [h.addressed?_text] at hread'
    obtain ⟨owner, name, hnames, rfl, rfl⟩ := CloneRequest.ofTwoNames?_eq_some hread'
    have htail : page.tail = [] := h.tail_eq_nil hread hnames (by rw [← hsame]) (by rw [← hsame])
    rw [htail, List.append_nil, h.namesOn_whole_path] at hnames
    have href : page.ref = [] := by
      by_contra hne
      simp [GithubPage.segments, hne] at hnames
    obtain ⟨rfl, rfl⟩ : page.owner = owner ∧ page.spelledName = name := by
      simpa [GithubPage.segments, href] using hnames
    have hpage : repository = page.repository := by
      rw [← hsame, GithubPage.repository, h.withoutSuffix_spelledName, if_pos href]
    obtain ⟨hquery, hfragment⟩ := page.tail_eq_nil_iff.1 htail
    rw [hpage] at hread
    exact ⟨href, hquery, hfragment, h.ofUrl?_iff.1 hread⟩
  · rintro ⟨href, hquery, hfragment, hwhole⟩
    have hsegments : page.segments = [page.owner, page.spelledName] := by
      simp [GithubPage.segments, href]
    have htail : page.tail = [] := by simp [tail, hquery, hfragment]
    have hpage : repository = page.repository := by
      have hsame := h.ofUrl?_iff.2 hwhole
      rw [hread] at hsame
      simpa using hsame
    rw [CloneRequest.repository?, h.addressed?_text, htail, List.append_nil, h.namesOn_whole_path,
      hsegments, hpage]
    simp [CloneRequest.ofTwoNames?, GithubPage.repository, href, h.withoutSuffix_spelledName]

end GithubPage

/-- Which source is asked for where a locator is read as a repository with a ref. With a token it is
the archive of this repository at this ref. Without one it is a clone, at the default branch, of
whatever stands at the locator; it is this repository only if the locator is an address of it. -/
theorem acquisition_sources (before : Session) (outside : Outside) (settings : Settings)
    (locator : String) (repository : GithubRepository) (token : String) (d : Disk)
    (hread : GithubRepository.ofUrl? locator = .ok (some repository))
    (hmade : before.disk.makeDirectory (temporaryPath before (before.made + 1)) = .ok d) :
    (∃ archive : Request,
      ((ExceptT.run (acquire outside settings locator (some token))).run before).2.requests =
        before.requests ++ [archive] ∧
      archive.repository? settings = some repository) ∧
    ∃ copy : Request,
      ((ExceptT.run (acquire outside settings locator none)).run before).2.requests =
        before.requests ++ [copy] ∧
      (copy.repository? settings = some repository ↔ ∃ address : CloneRequest.Address,
        address.WellFormed ∧ address.text = locator ∧ address.repository = repository) ∧
      ∀ page : GithubPage, page.WellFormed → page.text = locator →
        (copy.repository? settings = some repository ↔ page.IsPlain) := by
  constructor
  · obtain ⟨howner, hname⟩ := GithubRepository.no_slash_of_ofUrl? hread
    refine ⟨.fetch (archiveUrl settings repository) (archiveHeaders token) settings.httpTimeout,
      requests_acquire hmade ?_, GithubRepository.ofArchiveUrl?_archiveUrl howner hname⟩
    simp only [fetchInto, hread]
    exact asked_download repository token _
  · refine ⟨_, requests_acquire hmade (asked_clone locator _), ?_⟩
    have hcommand := CloneRequest.ofCommand?_cloneCommand (CloneRequest.head?_ne_dash hread)
      ((temporaryPath before (before.made + 1)).child "repo")
    simp only [Request.repository?, hcommand, Option.bind_some]
    refine ⟨CloneRequest.repository?_iff, ?_⟩
    rintro page hformed rfl
    exact hformed.repository?_iff hread

theorem acquisition_sources_branch :
    GithubRepository.ofUrl? "https://github.com/acme/shop/tree/dev" =
      .ok (some ⟨"acme", "shop", some "dev"⟩) ∧
    freshSession.disk.makeDirectory (temporaryPath freshSession 1) = .ok freshDisk ∧
    (∃ archive : Request,
      ((ExceptT.run (acquire cutOffWorld {} "https://github.com/acme/shop/tree/dev"
        (some "secret"))).run freshSession).2.requests = [archive] ∧
      archive.repository? {} = some ⟨"acme", "shop", some "dev"⟩) ∧
    ∃ copy : Request,
      ((ExceptT.run (acquire cutOffWorld {} "https://github.com/acme/shop/tree/dev"
        none)).run freshSession).2.requests = [copy] ∧
      copy.repository? {} ≠ some ⟨"acme", "shop", some "dev"⟩ := by
  have hread : GithubRepository.ofUrl? "https://github.com/acme/shop/tree/dev" =
      .ok (some ⟨"acme", "shop", some "dev"⟩) := by
    decide
  obtain ⟨harchive, copy, hrequests, haddress, -⟩ := acquisition_sources freshSession cutOffWorld {}
    "https://github.com/acme/shop/tree/dev" ⟨"acme", "shop", some "dev"⟩ "secret" freshDisk hread
    makeDirectory_freshSession
  refine ⟨hread, makeDirectory_freshSession, harchive, copy, hrequests, ?_⟩
  intro hsame
  obtain ⟨address, -, -, hrepository⟩ := haddress.1 hsame
  -- an address has no ref
  cases congrArg GithubRepository.ref hrepository

/-- The archive is asked for at the branch that a page shows, the clone is asked for at the page
itself. -/
theorem acquisition_sources_differ :
    ((ExceptT.run (acquire cutOffWorld {} "https://github.com/acme/shop/tree/dev"
      (some "secret"))).run freshSession).2.requests =
        [.fetch "https://api.github.com/repos/acme/shop/tarball/dev" (archiveHeaders "secret") 60] ∧
    ((ExceptT.run (acquire cutOffWorld {} "https://github.com/acme/shop/tree/dev"
      none)).run freshSession).2.requests =
        [.run ["git", "clone", "--depth", "1", "--quiet", "https://github.com/acme/shop/tree/dev",
          "/tmp/apiscout-1/repo"] 300] ∧
    CloneRequest.repository? ⟨"https://github.com/acme/shop/tree/dev", none⟩ = none := by
  refine ⟨by cbv, by cbv, by decide⟩

end EndpointCatalog.Remote
