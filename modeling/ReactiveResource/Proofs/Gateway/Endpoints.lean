import Mathlib.Data.List.DropRight
import ReactiveResource.Proofs.Gateway.Confinement

/-!
# Ordinary methods and their endpoints

The name of a method may say more than which method is meant: slashes, dots, blanks and the signs
that end a path are read as such, and other characters are encoded. An ordinary name has none of
them. It is one segment, which is written as it is, so that the name can be read off the URL.

* `OrdinaryName`: names of letters, digits, underscores, hyphens and dots;
* `OrdinaryName.nameSegments_eq`, `encodeSegment_eq`: an ordinary name is a segment that is written
  as it is;
* `OrdinaryName.urlAt_eq`: the URL of a method with such a name;
* `Endpoint`, `Endpoint.print_eq`: endpoints and their texts;
* `ordinary_methods_apart`: ordinary methods have endpoints of their own below the path of the
  backend.
-/

namespace ReactiveResource

theorem Text.split_of_forall {separates : Char → Bool} {cs : List Char}
    (none : ∀ c ∈ cs, separates c = false) : split separates cs = [cs] := by
  induction cs with
  | nil => rfl
  | cons c rest ih =>
    obtain ⟨here, none⟩ := List.forall_mem_cons.1 none
    rw [split, if_neg (by simp [here]), ih none]

namespace Url

theorem trimEnd_of_forall {cs : List Char} (full : ∀ c ∈ cs, isBlank c = false) :
    trimEnd cs = cs :=
  List.rdropWhile_eq_self_iff.2 fun nonempty => by
    simp [full _ (List.getLast_mem nonempty)]

theorem plainDots_of_forall {cs : List Char} (bare : ∀ c ∈ cs, c ≠ '%') : plainDots cs = cs := by
  induction cs with
  | nil => rfl
  | cons c rest ih =>
    obtain ⟨here, bare⟩ := List.forall_mem_cons.1 bare
    rw [plainDots, ih bare] <;> simp [here]

theorem Percent.encode_of_forall {reserved : Char → Bool} {cs : List Char}
    (free : ∀ c ∈ cs, reserved c = false) : encode reserved cs = cs := by
  induction cs with
  | nil => rfl
  | cons c rest ih =>
    obtain ⟨here, free⟩ := List.forall_mem_cons.1 free
    rw [encode, List.flatMap_cons, encodeChar, if_neg (by simp [here]), ← encode, ih free]
    rfl

end Url

namespace HttpGateway

open Url

/-! ### Ordinary names -/

/-- Whether a character may stand in an ordinary name: an ASCII letter or digit, an underscore, a
hyphen or a dot. -/
def isOrdinary (c : Char) : Bool := c.isAlphanum || c == '_' || c == '-' || c == '.'

/-- The name of a method has only ordinary characters, if any, and is not one dot or two. -/
structure OrdinaryName (method : String) : Prop where
  plain : ∀ c ∈ method.toList, isOrdinary c = true
  notDot : method ≠ "."
  notDotDot : method ≠ ".."

theorem lt_of_isOrdinary {c : Char} (h : isOrdinary c = true) : c.toNat < 128 := by
  simp only [isOrdinary, Bool.or_eq_true, beq_iff_eq] at h
  rcases h with ((h | rfl) | rfl) | rfl
  · delta Char.isAlphanum Char.isAlpha Char.isUpper Char.isLower Char.isDigit at h
    simp only [Bool.or_eq_true, Bool.and_eq_true, decide_eq_true_eq, ge_iff_le,
      UInt32.le_iff_toNat_le] at h
    change ((65 ≤ c.toNat ∧ c.toNat ≤ 90) ∨ 97 ≤ c.toNat ∧ c.toNat ≤ 122)
      ∨ 48 ≤ c.toNat ∧ c.toNat ≤ 57 at h
    omega
  all_goals decide

/-- Ordinary characters have no meaning of their own in a URL. -/
theorem plain_of_isOrdinary {c : Char} (h : isOrdinary c = true) :
    isBlank c = false ∧ endsPath c = false ∧ isSkipped c = false ∧ isSlash true c = false
      ∧ Percent.inPath c = false ∧ c ≠ '%' := by
  have ascii : ∀ n < 128, isOrdinary (Char.ofNat n) = true →
      isBlank (Char.ofNat n) = false ∧ endsPath (Char.ofNat n) = false
        ∧ isSkipped (Char.ofNat n) = false ∧ isSlash true (Char.ofNat n) = false
        ∧ Percent.inPath (Char.ofNat n) = false ∧ Char.ofNat n ≠ '%' := by
    decide +kernel
  have read := ascii c.toNat (lt_of_isOrdinary h)
  rw [Char.ofNat_toNat] at read
  exact read h

namespace OrdinaryName

variable {method : String}

theorem opens (ordinary : OrdinaryName method) : ∀ c ∈ method.toList, (!endsPath c) = true :=
  fun c mem => by simp [(plain_of_isOrdinary (ordinary.plain c mem)).2.1]

/-- Nothing is trimmed off an ordinary name. -/
theorem trimEnd_eq (ordinary : OrdinaryName method) : trimEnd method.toList = method.toList :=
  trimEnd_of_forall fun c mem => (plain_of_isOrdinary (ordinary.plain c mem)).1

/-- An ordinary name is one segment. -/
theorem nameSegments_eq (ordinary : OrdinaryName method) :
    nameSegments method = [method.toList] := by
  have solid : solid method.toList = method.toList :=
    List.filter_eq_self.2 fun c mem => by
      simp [(plain_of_isOrdinary (ordinary.plain c mem)).2.2.1]
  rw [nameSegments, ordinary.trimEnd_eq, List.takeWhile_eq_self_iff.2 ordinary.opens, solid]
  exact Text.split_of_forall fun c mem => (plain_of_isOrdinary (ordinary.plain c mem)).2.2.2.1

/-- An ordinary name is written as it is. -/
theorem encodeSegment_eq (ordinary : OrdinaryName method) :
    encodeSegment method.toList = method := by
  rw [encodeSegment, Percent.encode_of_forall, String.ofList_toList]
  exact fun c mem => (plain_of_isOrdinary (ordinary.plain c mem)).2.2.2.2.1

/-- An ordinary name is not read as dots. -/
theorem isDots_eq (ordinary : OrdinaryName method) : isDots method.toList = false := by
  have read : plainDots method.toList = method.toList :=
    plainDots_of_forall fun c mem => (plain_of_isOrdinary (ordinary.plain c mem)).2.2.2.2.2
  have notDot : method.toList ≠ ['.'] := fun h =>
    ordinary.notDot (String.toList_inj.1 h)
  have notDotDot : method.toList ≠ ['.', '.'] := fun h =>
    ordinary.notDotDot (String.toList_inj.1 h)
  simp [isDots, isDot, isDotDot, read, notDot, notDotDot]

/-- The URL of an ordinary method ends with its name, in the folder of the methods. -/
theorem urlAt_eq (ordinary : OrdinaryName method) (base : Url) (folder : List String) :
    urlAt base folder method
      = { base with
          path := .segments (endpoint folder ++ [method]), query := none, fragment := none } := by
  have nothing : (trimEnd method.toList).dropWhile (!endsPath ·) = [] := by
    rw [ordinary.trimEnd_eq]
    exact List.dropWhile_eq_nil_iff.2 ordinary.opens
  have pushed : pushSegments (endpoint folder) (nameSegments method)
      = endpoint folder ++ [method] := by
    rw [ordinary.nameSegments_eq, pushSegments, endPath_eq, leading, lastName,
      if_neg (by simp [ordinary.isDots_eq]), if_neg (by simp [ordinary.isDots_eq]),
      ordinary.encodeSegment_eq]
    rfl
  rw [urlAt, nothing, pushed]
  rfl

end OrdinaryName

/-! ### Endpoints -/

/-- The URL of a method is that of its backend but for the path. This is the path of the backend
with a slash at its end, then the place of the methods, then the name as it is; nothing follows. -/
structure Endpoint (base : Url) (method : String) (url : Url) : Prop where
  scheme : url.scheme = base.scheme
  authority : url.authority = base.authority
  query : url.query = none
  fragment : url.fragment = none
  path : url.path.print = base.path.folderText ++ "api/method/" ++ method

/-- The text of an endpoint. -/
theorem Endpoint.print_eq {base url : Url} {method : String} {a : Authority}
    (endpoint : Endpoint base method url) (hosted : base.authority = some a) :
    url.print = base.scheme ++ "://" ++ a.printUser ++ a.printHost ++ base.path.folderText
      ++ "api/method/" ++ method := by
  rw [Url.print, endpoint.authority, hosted]
  simp only [Url.printRest, endpoint.scheme, endpoint.authority, endpoint.query, endpoint.fragment,
    endpoint.path, hosted]
  simp [String.append_assoc]

/-- The text of a path in the folder of the methods. -/
theorem print_endpoint (folder : List String) (method : String) :
    (Path.segments (endpoint folder ++ [method])).print
      = (Path.segments (folder ++ [""])).print ++ "api/method/" ++ method := by
  have name : (Path.segments [method]).print = "/" ++ method := by simp [Path.print]
  have place : (Path.segments ["api", "method"]).print ++ "/" = "/" ++ "api/method/" := rfl
  calc (Path.segments (endpoint folder ++ [method])).print
    _ = (Path.segments folder).print ++ ((Path.segments ["api", "method"]).print ++ "/")
        ++ method := by simp only [endpoint, print_append, name, String.append_assoc]
    _ = (Path.segments (folder ++ [""])).print ++ "api/method/" ++ method := by
        simp only [place, print_concat_empty, String.append_assoc]

/-- **Ordinary methods have endpoints of their own below the path of the backend.** A backend on the
web has a gateway, whatever the path, the query and the fragment of its URL are. Each ordinary
method has an endpoint there, and the text of the endpoint tells which method it is. -/
theorem ordinary_methods_apart {o : HttpOptions} {base : Url}
    (parsed : Url.ofText? o.baseUrl = .ok base) (web : base.IsWeb) :
    ∃ g, ofOptions o = .ok g
      ∧ (∀ method, OrdinaryName method →
        ∃ url, g.methodUrl method = .ok url ∧ Endpoint base method url)
      ∧ ∀ method method' url url', OrdinaryName method → OrdinaryName method' →
        g.methodUrl method = .ok url → g.methodUrl method' = .ok url' → url.print = url'.print →
        method = method' := by
  obtain ⟨folder, g, made, slashed, -, text⟩ := ofOptions_web parsed web
  obtain ⟨a, hosted⟩ := exists_authority_of_web parsed web
  have ends (method : String) (ordinary : OrdinaryName method) :
      ∃ url, g.methodUrl method = .ok url ∧ Endpoint base method url := by
    have named := methodUrl_eq (g := g) (by rw [slashed]; exact web) (by rw [slashed]) method
    refine ⟨_, named, ?_⟩
    rw [ordinary.urlAt_eq, slashed]
    exact ⟨rfl, rfl, rfl, rfl, by rw [print_endpoint, text]⟩
  refine ⟨g, made, ends, fun method method' url url' ordinary ordinary' at' at'' same => ?_⟩
  obtain ⟨_, named, endpoint⟩ := ends method ordinary
  obtain ⟨_, named', endpoint'⟩ := ends method' ordinary'
  cases named.symm.trans at'
  cases named'.symm.trans at''
  rw [endpoint.print_eq hosted, endpoint'.print_eq hosted] at same
  exact String.append_right_inj _ |>.1 same

/-! ### Two ordinary methods -/

/-- A backend in a folder, with a user, a port, a query and a fragment. -/
def deskOptions : HttpOptions := { baseUrl := "http://u:p@[::1]:8080/desk/../press?old#top" }

/-- The URL of that backend. -/
def deskUrl : Url :=
  { scheme := "http"
    authority := some
      { username := "u", password := "p", host := .ipv6 [0, 0, 0, 0, 0, 0, 0, 1]
        port := some 8080 }
    path := .segments ["press"], query := some "old", fragment := some "top" }

/-- A method of sites and one whose name is made of dots have different endpoints there. -/
theorem sites_and_dots_apart :
    Url.ofText? deskOptions.baseUrl = .ok deskUrl ∧ deskUrl.IsWeb
      ∧ OrdinaryName "press.api.site.all" ∧ OrdinaryName "..."
      ∧ ∃ g url url', ofOptions deskOptions = .ok g
        ∧ g.methodUrl "press.api.site.all" = .ok url ∧ g.methodUrl "..." = .ok url'
        ∧ url.path.print = "/press/api/method/press.api.site.all"
        ∧ url'.path.print = "/press/api/method/..." ∧ url.print ≠ url'.print := by
  have parsed : Url.ofText? deskOptions.baseUrl = .ok deskUrl := by decide +kernel
  have sites : OrdinaryName "press.api.site.all" :=
    ⟨List.all_eq_true.1 (by decide +kernel), by decide, by decide⟩
  have dots : OrdinaryName "..." :=
    ⟨List.all_eq_true.1 (by decide +kernel), by decide, by decide⟩
  obtain ⟨g, made, ends, apart⟩ := ordinary_methods_apart parsed (.inl rfl)
  obtain ⟨url, named, endpoint⟩ := ends _ sites
  obtain ⟨url', named', endpoint'⟩ := ends _ dots
  refine ⟨parsed, .inl rfl, sites, dots, g, url, url', made, named, named', endpoint.path,
    endpoint'.path, fun same => ?_⟩
  exact absurd (apart _ _ _ _ sites dots named named' same) (by decide)

end HttpGateway

end ReactiveResource
