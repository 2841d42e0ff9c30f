import Mathlib
import FrameLink.Proofs.Url.Port
/-!
The path of an endpoint does not matter to where its URL goes. Whatever the path is made of, the slash
before it ends the authority, unless the address has done so earlier; so two paths of one address and one
port are both taken or both refused, and the two URLs differ only behind their places.
-/

namespace FrameLink.Url

/-! ## The text of a URL up to its path -/

/-- The text of a URL before its path: all that is used to reach it. -/
def place (url : Url) : String :=
  "ws://" ++ url.userText ++ url.host ++ ((url.port.map fun port => s!":{port}").getD "")

theorem splitSegments_ne_nil (cs : List Char) : splitSegments cs ≠ [] := by
  cases cs with
  | nil => simp [splitSegments]
  | cons c rest =>
    rw [splitSegments]
    split
    · simp
    · split <;> simp

theorem resolveDots_ne_nil {segments : List (List Char)} (some : segments ≠ [])
    (done : List (List Char)) : resolveDots done segments ≠ [] := by
  fun_induction resolveDots done segments with
  | case1 => exact absurd rfl some
  | case2 => exact List.cons_ne_nil _ _
  | case3 done segment rest resolved further ih =>
    cases rest with
    | cons next later => exact ih (List.cons_ne_nil next later)
    | nil =>
      have plain : isDoubleDot segment = false ∧ isSingleDot segment = false := by simpa using further
      rw [resolveDots]
      simp [resolved, plain]

theorem resolvePath_eq_cons (cs : List Char) : ∃ rest, resolvePath cs = '/' :: rest := by
  unfold resolvePath
  dsimp only
  generalize written : List.map (encode pathPart) _ = segments
  have some : segments ≠ [] := by
    rw [← written, Ne, List.map_eq_nil_iff]
    exact splitSegments_ne_nil _
  cases resolved : (resolveDots [] segments).reverse with
  | nil => exact absurd (List.reverse_eq_nil_iff.mp resolved) (resolveDots_ne_nil some [])
  | cons first others => exact ⟨first ++ others.flatMap fun segment => '/' :: segment, rfl⟩

theorem path_of_ofText {rest : List Char} {url : Url} (made : ofText rest = .ok url) :
    ∃ way, url.path = String.ofList (resolvePath way) := by
  change ((readAuthority (authorityText rest)).bind fun a => _) = _ at made
  cases read : readAuthority (authorityText rest) with
  | error fault =>
    rw [read] at made
    cases made
  | ok a =>
    rw [read] at made
    cases made
    exact ⟨_, rfl⟩

theorem place_of_ofText {rest : List Char} {url : Url} (made : ofText rest = .ok url) :
    (url.place ++ "/").toList <+: url.text.toList := by
  obtain ⟨way, path⟩ := path_of_ofText made
  obtain ⟨cs, rooted⟩ := resolvePath_eq_cons way
  unfold text place
  cases url.port <;> simp [path, rooted]

/-! ## Two paths of one address -/

theorem authorityText_of_any_path (address : String) (port : UInt16) (path other : String) :
    authorityText (endpointText address port other) =
      authorityText (endpointText address port path) := by
  by_cases cut : CutsOff address
  · rw [authorityText_of_cutsOff cut, authorityText_of_cutsOff cut]
  · rw [authorityText_of_not_cutsOff cut, authorityText_of_not_cutsOff cut]

theorem ofEndpoint_of_fault {address path : String} {port : UInt16} {fault : Fault}
    (refused : ofText (endpointText address port path) = .error fault) :
    ofEndpoint address port path =
      .error s!"{address}:{port}{rooted path}: {fault.message}" := by
  unfold ofEndpoint
  dsimp only
  rw [toList_endpoint, refused]

theorem ofText_of_fault {rest : List Char} {fault : Fault}
    (read : readAuthority (authorityText rest) = .error fault) : ofText rest = .error fault := by
  rw [← authority_ofText] at read
  cases made : ofText rest with
  | ok url =>
    rw [made] at read
    cases read
  | error other =>
    rw [made] at read
    cases read
    rfl

/-- Two paths are both taken, and then the URLs have the same user, host and port, and their texts are the
same up to the slash with which the path begins; or both are refused for the same fault. -/
theorem reached_alike_by_any_path (address : String) (port : UInt16) (path other : String) :
    (∃ url elsewhere, ofEndpoint address port path = .ok url ∧
      ofEndpoint address port other = .ok elsewhere ∧
      elsewhere.host = url.host ∧ elsewhere.port = url.port ∧
      elsewhere.user = url.user ∧ elsewhere.password = url.password ∧
      (url.place ++ "/").toList <+: url.text.toList ∧
      (url.place ++ "/").toList <+: elsewhere.text.toList) ∨
    (∃ fault : Fault,
      ofEndpoint address port path = .error s!"{address}:{port}{rooted path}: {fault.message}" ∧
      ofEndpoint address port other = .error s!"{address}:{port}{rooted other}: {fault.message}") := by
  have same := authorityText_of_any_path address port path other
  cases read : readAuthority (authorityText (endpointText address port path)) with
  | error fault =>
    have readToo := (congrArg readAuthority same).trans read
    exact .inr ⟨fault, ofEndpoint_of_fault (ofText_of_fault read),
      ofEndpoint_of_fault (ofText_of_fault readToo)⟩
  | ok a =>
    have readToo := (congrArg readAuthority same).trans read
    obtain ⟨url, made, whole⟩ := ofText_of_readAuthority read
    obtain ⟨elsewhere, madeToo, wholeToo⟩ := ofText_of_readAuthority readToo
    have equal := wholeToo.trans whole.symm
    have user : elsewhere.user = url.user := congrArg Authority.user equal
    have password : elsewhere.password = url.password := congrArg Authority.password equal
    have host : elsewhere.host = url.host := congrArg Authority.host equal
    have port : elsewhere.port = url.port := congrArg Authority.port equal
    have reached : elsewhere.place = url.place := by
      simp only [place, userText, user, password, host, port]
    exact .inl ⟨url, elsewhere, ofEndpoint_eq_ok.mpr made, ofEndpoint_eq_ok.mpr madeToo, host, port,
      user, password, place_of_ofText made, reached ▸ place_of_ofText madeToo⟩

example : (ofEndpoint "a:b@localhost" 5000 "\\@other:22?x@y:23#z").toOption.map place =
    some "ws://a:b@localhost:5000" := by
  decide +kernel

end FrameLink.Url
