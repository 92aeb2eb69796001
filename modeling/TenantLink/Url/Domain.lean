import TenantLink.Url.Label
import TenantLink.Url.Percent

/-!
# Host names

`Domain.toAscii?` brings a host name into the form that is sent: normalized, cut into labels at its
dots, and with each label beyond ASCII in Punycode.
-/

namespace TenantLink.Url.Domain

/-- The labels of a normalized name. -/
def labels? (chars : List Char) : Option (List Label) :=
  (Text.splitAt '.' chars).mapM Label.ofChars?

/-- The form of a host name that is sent; `none` when it is no host name. -/
def toAscii? (chars : List Char) : Option (List Char) :=
  match normalized? chars with
  | none => none
  | some name =>
    if name.all isAllowed then
      match labels? name with
      | none => none
      | some labels =>
        if labels.any Label.runsLeft ∧ !labels.all Label.directionsFit then none
        else some (['.'].intercalate (labels.map Label.sent))
    else none

end TenantLink.Url.Domain
