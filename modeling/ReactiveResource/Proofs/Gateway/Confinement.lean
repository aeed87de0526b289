import Mathlib.Data.List.TakeWhile
import ReactiveResource.Gateway.Http
import ReactiveResource.Proofs.Url.Folders

/-!
# Methods and their endpoint

The URL of a method is read relative to that of the backend, so that the name of the method has a
say in it: a question or number sign ends the path, and two dots lead out of the folder of the
methods. The scheme, the user, the host and the port are those of the backend whatever the name is.

* `nameSegments`: the segments of a name;
* `endpoint`, `methodUrl_eq`: the folder of the methods, and the URL of a method;
* `methodUrl_free`: every method can be sent a request if the backend can;
* `Confined`: the URLs that do not leave that folder;
* `method_confined_iff`: the names whose URLs are confined.
-/

namespace ReactiveResource

namespace Url

/-! ### References below a folder -/

/-- Whether a character is a control character or a blank. -/
def isBlank (c : Char) : Bool := c.toNat ≤ 0x20

/-- A text without blanks and control characters at its end. -/
def trimEnd (cs : List Char) : List Char := (cs.reverse.dropWhile isBlank).reverse

/-- A text that begins with more than blanks is trimmed at its end, and there no further than to
what it begins with. -/
theorem trim_append {start : String} (rest : String) {c d : Char} {cs ds : List Char}
    (first : start.toList = c :: cs) (last : start.toList.reverse = d :: ds)
    (hc : isBlank c = false) (hd : isBlank d = false) :
    trim (start ++ rest) = start.toList ++ trimEnd rest.toList := by
  show (((start ++ rest).toList.dropWhile isBlank).reverse.dropWhile isBlank).reverse = _
  rw [String.toList_append, first, List.cons_append, List.dropWhile_cons_of_neg (by simp [hc]),
    ← List.cons_append, ← first, List.reverse_append, List.dropWhile_append, trimEnd]
  split
  · next none =>
    rw [last, List.dropWhile_cons_of_neg (by simp [hd]), ← last, List.reverse_reverse,
      List.isEmpty_iff.1 none]
    simp
  · rw [List.reverse_append, List.reverse_reverse]

/-- What is trimmed off is blank. -/
theorem mem_trimEnd_iff {cs : List Char} {c : Char} (h : isBlank c = false) :
    c ∈ trimEnd cs ↔ c ∈ cs := by
  rw [trimEnd, List.mem_reverse]
  constructor
  · exact fun mem => List.mem_reverse.1 ((List.dropWhile_sublist _).subset mem)
  · intro mem
    rw [← List.mem_reverse,
      ← List.takeWhile_append_dropWhile (p := isBlank) (l := cs.reverse)] at mem
    refine (List.mem_append.1 mem).resolve_left fun blank => ?_
    rw [List.mem_takeWhile_imp blank] at h
    cases h

theorem isBlank_of_endsPath {c : Char} (ends : endsPath c = true) : isBlank c = false := by
  rcases Bool.or_eq_true_iff.1 ends with question | number
  · obtain rfl : c = '?' := by simpa using question
    rfl
  · obtain rfl : c = '#' := by simpa using number
    rfl

/-- No sign that ends a path is trimmed off. -/
theorem endsPath_trimEnd_iff (cs : List Char) :
    (∀ c ∈ trimEnd cs, endsPath c = false) ↔ ∀ c ∈ cs, endsPath c = false := by
  refine forall_congr' fun c => ?_
  cases ends : endsPath c with
  | false => simp
  | true => simp [mem_trimEnd_iff (isBlank_of_endsPath ends)]

/-- There is a query or a fragment exactly if a sign that ends a path begins it. -/
theorem tail_eq_none_iff (special : Bool) (cs : List Char) :
    ((tail special (solid (cs.dropWhile (!endsPath ·)))).1 = none
        ∧ (tail special (solid (cs.dropWhile (!endsPath ·)))).2 = none)
      ↔ ∀ c ∈ cs, endsPath c = false := by
  cases after : cs.dropWhile (!endsPath ·) with
  | nil =>
    have none : ∀ c ∈ cs, endsPath c = false := by
      simpa using List.dropWhile_eq_nil_iff.1 after
    exact iff_of_true ⟨rfl, rfl⟩ none
  | cons sign rest =>
    have ends : endsPath sign = true := by
      have head := List.head?_dropWhile_not (fun c => !endsPath c) cs
      rw [after] at head
      simpa using head
    have mem : sign ∈ cs := (List.dropWhile_sublist _).subset (after ▸ List.mem_cons_self)
    refine iff_of_false ?_ fun none => by simp [none sign mem] at ends
    rintro ⟨query, fragment⟩
    rcases Bool.or_eq_true_iff.1 ends with question | number
    · obtain rfl : sign = '?' := by simpa using question
      cases query
    · obtain rfl : sign = '#' := by simpa using number
      cases fragment

end Url

namespace HttpGateway

open Url

/-! ### The URL of a method -/

/-- The segments of the name of a method. -/
def nameSegments (method : String) : List (List Char) :=
  splitSegments true (solid ((trimEnd method.toList).takeWhile (!endsPath ·)))

/-- The folder of the methods, below that of the backend. -/
def endpoint (folder : List String) : List String := folder ++ ["api", "method"]

theorem splitSegments_endpoint (cs : List Char) :
    splitSegments true (solid ("api/method/".toList ++ cs))
      = "api".toList :: "method".toList :: splitSegments true (solid cs) := by
  rw [solid, List.filter_append]
  rfl

theorem pushSegment_api (folder : List String) :
    pushSegment folder "api".toList = folder ++ ["api"] := by
  rw [pushSegment_of_not_dots folder (by decide), show encodeSegment "api".toList = "api" by decide]

theorem pushSegment_method (folder : List String) :
    pushSegment folder "method".toList = folder ++ ["method"] := by
  rw [pushSegment_of_not_dots folder (by decide),
    show encodeSegment "method".toList = "method" by decide]

/-- The URL of a method at a backend whose folder is given. -/
def urlAt (base : Url) (folder : List String) (method : String) : Url :=
  { base with
    path := .segments (pushSegments (endpoint folder) (nameSegments method))
    query := (tail true (solid ((trimEnd method.toList).dropWhile (!endsPath ·)))).1
    fragment := (tail true (solid ((trimEnd method.toList).dropWhile (!endsPath ·)))).2 }

/-- **The URL of a method** is read relative to the folder of the backend. -/
theorem methodUrl_eq {g : HttpGateway} {folder : List String} (web : g.baseUrl.IsWeb)
    (path : g.baseUrl.path = .segments (folder ++ [""])) (method : String) :
    g.methodUrl method = .ok (urlAt g.baseUrl folder method) := by
  have trimmed : trim ("api/method/" ++ method) = "api/method/".toList ++ trimEnd method.toList :=
    trim_append method rfl rfl rfl rfl
  have open' : ∀ c ∈ "api/method/".toList, (!endsPath c) = true :=
    List.all_eq_true.1 (by decide)
  have pushed (cs : List Char) :
      pushSegments folder (splitSegments true (solid ("api/method/".toList ++ cs)))
        = pushSegments (endpoint folder) (splitSegments true (solid cs)) := by
    rw [splitSegments_endpoint]
    obtain ⟨segment, rest, segments⟩ := List.exists_cons_of_ne_nil (Text.split_ne_nil _ (solid cs))
    rw [splitSegments, segments]
    simp only [pushSegments, pushSegment_api, pushSegment_method, endpoint]
    simp
  rw [methodUrl, extend?, path]
  simp only [if_neg web.scheme_ne_file, web.isSpecial, trimmed, List.takeWhile_append_of_pos open',
    List.dropWhile_append_of_pos open', List.dropLast_concat, pushed]
  rfl

/-- The gateway of a backend on the web, whose URL is that of a folder. -/
theorem ofOptions_web {o : HttpOptions} {base : Url} (parsed : Url.ofText? o.baseUrl = .ok base)
    (web : base.IsWeb) :
    ∃ folder g, ofOptions o = .ok g ∧ g.baseUrl = { base with path := .segments (folder ++ [""]) }
      ∧ Unslashed folder ∧ (Path.segments (folder ++ [""])).print = base.path.folderText := by
  obtain ⟨list, path, unslashed, nonempty⟩ := ofText?_web parsed web
  obtain ⟨folder, slashed, plain, text⟩ := print_withTrailingSlash web path unslashed nonempty
  rw [ofOptions, parsed]
  exact ⟨folder, _, rfl, slashed, plain, text⟩

/-! ### Requests to a method -/

/-- The URL of a method is that of its backend but for the path, which goes on below the folder of
the methods, and nothing follows the path. -/
structure Confined (base url : Url) : Prop where
  scheme : url.scheme = base.scheme
  authority : url.authority = base.authority
  query : url.query = none
  fragment : url.fragment = none
  path : (base.path.folderText ++ "api/method/").toList <+: url.path.print.toList

theorem plain_nameSegments {method : String} :
    ∀ segment ∈ nameSegments method, '/' ∉ segment :=
  fun _ => slash_not_mem_of_mem_split

theorem unslashed_endpoint {folder : List String} (plain : Unslashed folder) :
    Unslashed (endpoint folder) :=
  plain.append fun s mem => by
    have names : ∀ s ∈ ["api", "method"], '/' ∉ s.toList := by decide
    exact names s mem

/-- Two dots lead out of the folder of the methods. -/
theorem not_prefix_shorten_endpoint (folder : List String) :
    ¬ endpoint folder <+: shorten (endpoint folder) := by
  have shortened : shorten (endpoint folder) = folder ++ ["api"] := by
    rw [endpoint, shorten_append folder (by simp)]
    exact congrArg (folder ++ ·) (by decide)
  intro inside
  have le := inside.length_le
  rw [shortened] at le
  simp [endpoint] at le

/-- The path of a method begins with the text of the folder of the methods exactly if its name comes
back to that folder for good. -/
theorem prefix_print_pushSegments_iff {folder : List String} (plain : Unslashed folder)
    (method : String) :
    (Path.segments (endpoint folder ++ [""])).print.toList
        <+: (Path.segments (pushSegments (endpoint folder) (nameSegments method))).print.toList
      ↔ Returns (endpoint folder) (leading (nameSegments method)) := by
  have some : nameSegments method ≠ [] := Text.split_ne_nil _ _
  have unslashed := (unslashed_endpoint plain).pushSegments some plain_nameSegments
  rw [prefix_print_iff (unslashed_endpoint plain) unslashed,
    ← prefix_walk_iff (not_prefix_shorten_endpoint folder), pushSegments_eq _ some]
  constructor
  · rintro ⟨rest, more, same⟩
    obtain ⟨front, last, rfl⟩ := List.eq_nil_or_concat rest |>.resolve_left more
    rw [List.concat_eq_append, ← List.append_assoc] at same
    exact ⟨front, (List.append_inj_left' same rfl).symm⟩
  · rintro ⟨rest, same⟩
    exact ⟨rest ++ [lastName (nameSegments method)], by simp, by simp [← same]⟩

/-- **The names whose URLs stay at the endpoint of the methods.** Every name has a URL, with the
scheme and the authority of the backend. It is confined exactly if the name has no sign that ends a
path and comes back to the folder of the methods for good; so it is without two dots. -/
theorem method_confined_iff {o : HttpOptions} {base : Url}
    (parsed : Url.ofText? o.baseUrl = .ok base) (web : base.IsWeb) (method : String) :
    ∃ folder g url, ofOptions o = .ok g ∧ g.baseUrl.path = .segments (folder ++ [""])
      ∧ g.methodUrl method = .ok url
      ∧ url.scheme = base.scheme ∧ url.authority = base.authority
      ∧ (Confined base url ↔ (∀ c ∈ method.toList, endsPath c = false)
        ∧ Returns (endpoint folder) (leading (nameSegments method)))
      ∧ ((∀ c ∈ method.toList, endsPath c = false) →
        (∀ segment ∈ nameSegments method, isDotDot segment = false) → Confined base url) := by
  obtain ⟨folder, g, made, slashed, plain, text⟩ := ofOptions_web parsed web
  have path : g.baseUrl.path = .segments (folder ++ [""]) := by rw [slashed]
  have named := methodUrl_eq (g := g) (by rw [slashed]; exact web) path method
  have scheme : g.baseUrl.scheme = base.scheme := by rw [slashed]
  have authority : g.baseUrl.authority = base.authority := by rw [slashed]
  have below : base.path.folderText ++ "api/method/"
      = (Path.segments (endpoint folder ++ [""])).print := by
    rw [← text, print_concat_empty, print_concat_empty, endpoint, print_append, String.append_assoc,
      String.append_assoc]
    rfl
  have confined_iff : Confined base (urlAt g.baseUrl folder method)
      ↔ (∀ c ∈ method.toList, endsPath c = false)
        ∧ Returns (endpoint folder) (leading (nameSegments method)) := by
    rw [← endsPath_trimEnd_iff, ← tail_eq_none_iff true, ← prefix_print_pushSegments_iff plain]
    exact ⟨fun h => ⟨⟨h.query, h.fragment⟩, below ▸ h.path⟩,
      fun h => ⟨scheme, authority, h.1.1, h.1.2, below ▸ h.2⟩⟩
  refine ⟨folder, g, _, made, path, named, scheme, authority, confined_iff, fun open' forth => ?_⟩
  exact confined_iff.2 ⟨open', returns_of_forth _ fun s mem => forth s (leading_subset _ mem)⟩

/-! ### Names with two dots -/

/-- A backend in a folder of the own machine. -/
def pressOptions : HttpOptions := { baseUrl := "http://[::1]/press" }

/-- The URL of that backend. -/
def pressUrl : Url :=
  { scheme := "http"
    authority := some { host := .ipv6 [0, 0, 0, 0, 0, 0, 0, 1] }
    path := .segments ["press"] }

theorem ofText?_pressOptions : Url.ofText? pressOptions.baseUrl = .ok pressUrl := by
  decide +kernel

/-- A name that leaves a folder of its own stays at the endpoint. -/
theorem detour_confined :
    Url.ofText? pressOptions.baseUrl = .ok pressUrl ∧ pressUrl.IsWeb
      ∧ ∃ g url, ofOptions pressOptions = .ok g ∧ g.methodUrl "sites/../list" = .ok url
        ∧ Confined pressUrl url := by
  refine ⟨ofText?_pressOptions, .inl rfl, ?_⟩
  obtain ⟨folder, g, url, made, -, named, -, -, confined, -⟩ :=
    method_confined_iff ofText?_pressOptions (.inl rfl) "sites/../list"
  have open' : "sites/../list".toList.all (!endsPath ·) = true := by decide
  refine ⟨g, url, made, named, confined.2 ⟨fun c mem => ?_, [], _, rfl, rfl, ?_⟩⟩
  · simpa using List.all_eq_true.1 open' c mem
  · decide +kernel

/-- A name that leaves the folder of the methods does not. -/
theorem login_not_confined :
    ¬ ∀ (o : HttpOptions) (base : Url) (g : HttpGateway) (method : String) (url : Url),
      Url.ofText? o.baseUrl = .ok base → base.IsWeb → ofOptions o = .ok g →
      g.methodUrl method = .ok url → Confined base url := by
  intro promised
  let g : HttpGateway :=
    { baseUrl := { pressUrl with path := .segments ["press", ""] }, siteName := "[::1]" }
  have made : ofOptions pressOptions = .ok g := by decide +kernel
  have named : g.methodUrl "../../login"
      = .ok { pressUrl with path := .segments ["press", "login"] } := by decide +kernel
  have confined := promised _ _ _ _ _ ofText?_pressOptions (.inl rfl) made named
  exact absurd confined.path (by decide +kernel)

end HttpGateway

end ReactiveResource
