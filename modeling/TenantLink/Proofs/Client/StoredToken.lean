import Mathlib
import TenantLink.Client.Csrf
import TenantLink.Proofs.Http.Cookie

/-!
# The token in the cookies

The token is looked for in one header that holds all cookies of the API base. A header that cannot
be read as ASCII text tells nothing, so a token that lies in the jar is used only if every cookie
beside it is visible ASCII text: `storedToken_first`.
-/

namespace TenantLink

namespace Cookie

variable {cookies : List Cookie}

def isVisible (c : Cookie) : Bool :=
  c.name.toList.all isVisibleChar && c.value.toList.all isVisibleChar

/-- Whether a character may stand in a cookie value: visible ASCII without quotes, commas,
semicolons and backslashes. -/
def isOctet (c : Char) : Bool :=
  0x21 ≤ c.toNat && c.toNat ≤ 0x7E && c ∉ ['"', ',', ';', '\\']

theorem headerText_visible (cookies : List Cookie) :
    (headerText cookies).toList.all isVisibleChar = cookies.all isVisible := by
  rw [headerText, String.toList_intercalate, Text.all_intercalate (by decide), List.all_map,
    List.all_map]
  refine congrArg cookies.all (funext fun c => ?_)
  have mark : isVisibleChar '=' = true := by decide
  simp [pairText_toList, isVisible, mark]

theorem isBlank_of_isOctet {c : Char} (octet : isOctet c = true) : Text.isBlank c = false := by
  have short : c.toNat < 128 := by
    simp only [isOctet, Bool.and_eq_true, decide_eq_true_eq] at octet
    omega
  have free : isOctet c = true → Text.isBlank c = false :=
    forall_ascii (P := fun c => isOctet c = true → Text.isBlank c = false) (by decide) short
  exact free octet

theorem plain_of_isOctet {value : List Char} (octets : value.all isOctet = true) :
    plain value = value := by
  have blank : ∀ c ∈ value, Text.isBlank c = false :=
    fun c member => isBlank_of_isOctet (List.all_eq_true.mp octets c member)
  have quote : ∀ c ∈ value, decide (c = '"') = false := by
    intro c member
    have octet := List.all_eq_true.mp octets c member
    simp only [isOctet, Bool.and_eq_true, decide_eq_true_eq] at octet
    exact decide_eq_false fun same => octet.2 (same ▸ List.mem_cons_self)
  rw [plain, Text.trim, Text.dropAround_of_none blank, Text.dropAround_of_none quote]

end Cookie

namespace World

open Cookie

variable {w : World} {c : Config} {k : Cookie}

/-- The cookies that go to the API base. -/
def apiCookies (w : World) (c : Config) : List Cookie := w.jar.matching w.wall c.apiBase

theorem csrfCookie_eq (filled : w.jar.Filled) :
    w.csrfCookie c =
      if (w.apiCookies c).all isVisible then
        (((w.apiCookies c).find? (·.name = c.csrfCookieName)).map fun k =>
          plain k.value.toList).bind fun value =>
            if value = [] then none else some (String.ofList value)
      else none := by
  have readable : ∀ k ∈ w.apiCookies c, k.Readable :=
    fun k member => filled.readable k (List.mem_filter.mp member).1
  have header : w.jar.header? w.wall c.apiBase =
      if w.apiCookies c = [] then none else HeaderValue.ofText? (headerText (w.apiCookies c)) := rfl
  unfold csrfCookie
  rw [header]
  split
  next none => simp [none]
  next =>
    rw [HeaderValue.ascii?_ofText?, headerText_visible]
    split
    next => exact value?_headerText readable c.csrfCookieName
    next => rfl

/-- The one cookie of that name holds the token, and nobody is asked for one, as long as all cookies
of the API base are visible ASCII text. If one of them is not, the token is not found, and the
backend is asked for one. -/
theorem storedToken_first (filled : w.jar.Filled)
    (one : (w.apiCookies c).filter (·.name = c.csrfCookieName) = [k])
    (holds : k.value ≠ "") (octets : k.value.toList.all isOctet = true) :
    ((w.apiCookies c).all isVisible = true →
      w.csrfCookie c = some k.value ∧
      (∀ outer, w.csrfToken c outer = (.ok (some k.value), w)) ∧
      w.resolveToken c = (some k.value, w)) ∧
    ((w.apiCookies c).all isVisible = false →
      w.csrfCookie c = none ∧ ∀ outer, w.csrfToken c outer = w.bootstrapToken c outer) := by
  have found : (w.apiCookies c).find? (·.name = c.csrfCookieName) = some k := by
    rw [← List.head?_filter, one]
    rfl
  have cookie := csrfCookie_eq (c := c) filled
  have value : plain k.value.toList = k.value.toList := plain_of_isOctet octets
  have present : k.value.toList ≠ [] := fun none => holds (String.toList_eq_nil_iff.mp none)
  rw [found, Option.map_some, Option.bind_some, value, if_neg present, String.ofList_toList]
    at cookie
  refine ⟨fun visible => ?_, fun invisible => ?_⟩
  · rw [if_pos visible] at cookie
    have token : ∀ outer, w.csrfToken c outer = (.ok (some k.value), w) := by
      intro outer
      rw [csrfToken, cookie]
    exact ⟨cookie, token, by rw [resolveToken, token]⟩
  · rw [if_neg (Bool.eq_false_iff.mp invisible)] at cookie
    refine ⟨cookie, fun outer => ?_⟩
    rw [csrfToken, cookie]

/-- A token between cookies whose names begin or end like its own. -/
def quotedJar : CookieJar :=
  ((({} : CookieJar).set ⟨0⟩ Config.defaultBase "xcsrf_token=\"a=b\"; Path=/").set ⟨0⟩
    Config.defaultBase "csrf_token=abc; Path=/").set ⟨0⟩ Config.defaultBase "csrf_token2=; Path=/"

def withJar (jar : CookieJar) : World :=
  { wall := ⟨0⟩, backend := { origin := Config.defaultBase }, jar, provider := {} }

theorem quotedJar_token :
    (withJar quotedJar).csrfCookie { apiBase := Config.defaultBase } = some "abc" ∧
    (withJar quotedJar).resolveToken { apiBase := Config.defaultBase } =
      (some "abc", withJar quotedJar) := by
  have filled : quotedJar.Filled :=
    ((CookieJar.Filled.empty.set ⟨0⟩ Config.defaultBase "xcsrf_token=\"a=b\"; Path=/").set ⟨0⟩
      Config.defaultBase "csrf_token=abc; Path=/").set ⟨0⟩ Config.defaultBase
      "csrf_token2=; Path=/"
  have one : ((withJar quotedJar).apiCookies { apiBase := Config.defaultBase }).filter
      (·.name = "csrf_token") =
        [{ name := "csrf_token", value := "abc", scope := .host "localhost", path := "/" }] := by
    cbv
  obtain ⟨reads, -⟩ := storedToken_first (c := { apiBase := Config.defaultBase }) filled one
    (by decide) (by decide)
  obtain ⟨cookie, -, token⟩ := reads (by cbv)
  exact ⟨cookie, token⟩

/-- A token, beside a cookie with a letter beyond ASCII. -/
def accentedJar : CookieJar :=
  (({} : CookieJar).set ⟨0⟩ Config.defaultBase "csrf_token=abc").set ⟨0⟩ Config.defaultBase
    "other=é"

/-- The token is there, but it is not found, and the backend is asked for one. -/
theorem accentedJar_hides_token :
    accentedJar.Filled ∧
    ((withJar accentedJar).apiCookies { apiBase := Config.defaultBase }).map
      (fun k => (k.name, k.value)) = [("csrf_token", "abc"), ("other", "é")] ∧
    (withJar accentedJar).csrfCookie { apiBase := Config.defaultBase } = none ∧
    ((withJar accentedJar).resolveToken { apiBase := Config.defaultBase }).1 = none ∧
    ((withJar accentedJar).resolveToken
      { apiBase := Config.defaultBase }).2.backend.received.map SentRequest.target =
        ["/api/csrf"] := by
  refine ⟨(CookieJar.Filled.empty.set _ _ _).set _ _ _, ?_, ?_, ?_, ?_⟩ <;> cbv

end World

end TenantLink
