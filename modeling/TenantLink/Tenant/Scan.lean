import TenantLink.Error
import TenantLink.Json.Printer

/-!
# The tenant scan

A body in which an object is tagged with a tenant must belong to the tenant of the session
throughout. The scan goes through a tagged body in depth and stops at the first member
`tenant_id` with another tenant, or at the first value that is nested too deep.
-/

namespace TenantLink

/-- One step from a value to a part of it. -/
inductive Json.Step
  | member (key : String)
  | item (index : Nat)
  deriving DecidableEq, Repr

/-- How a character of a key stands in a pointer. -/
def Json.Step.escaped (c : Char) : List Char :=
  if c = '~' then ['~', '0'] else if c = '/' then ['~', '1'] else [c]

def Json.Step.chars : Json.Step → List Char
  | member key => '/' :: key.toList.flatMap escaped
  | item index => '/' :: Nat.toDigits 10 index

def Json.pointer (steps : List Json.Step) : String := String.ofList (steps.flatMap Json.Step.chars)

def tenantField : String := "tenant_id"

/-- The text of a tenant: a string as it is, and any other value as it is printed. -/
def Json.tenantText : Json → String
  | .string s => s
  | value => value.text

/-- Whether a value is an object with a tenant. -/
def Json.isTagged (value : Json) : Bool := (value.member? tenantField).isSome

/-- Whether a value, or an item of it, is an object with a tenant. -/
def Json.carriesTenant : Json → Bool
  | .array items => items.any isTagged
  | value => value.isTagged

/-- A scan for one tenant, down to a depth. -/
structure TenantScan where
  expected : String
  maxDepth : Nat
  deriving DecidableEq, Repr

namespace TenantScan

/-- Compares the tenant of an object with the expected one. The steps to it are given last
first. -/
def check (scan : TenantScan) (steps : List Json.Step) (tenant : Json) : Except Violation Unit :=
  if tenant.tenantText = scan.expected then .ok ()
  else .error (.tenantMismatch scan.expected tenant.tenantText (Json.pointer steps.reverse))

mutual

/-- Scans a value at a depth. The steps to it are given last first. -/
def visit (scan : TenantScan) (depth : Nat) (steps : List Json.Step) (value : Json) :
    Except Violation Unit :=
  if scan.maxDepth < depth then .error (.depthExceeded scan.maxDepth)
  else
    match value with
    | .object members => visitMembers scan (depth + 1) steps members
    | .array items => visitItems scan (depth + 1) steps 0 items
    | _ => .ok ()

def visitMembers (scan : TenantScan) (depth : Nat) (steps : List Json.Step) :
    List (String × Json) → Except Violation Unit
  | [] => .ok ()
  | m :: rest =>
    match visitMember scan depth steps m with
    | .ok () => visitMembers scan depth steps rest
    | .error v => .error v

/-- Scans one member: its tenant first, if it names one. -/
def visitMember (scan : TenantScan) (depth : Nat) (steps : List Json.Step) :
    String × Json → Except Violation Unit
  | (key, value) =>
    let steps := .member key :: steps
    match if key = tenantField then scan.check steps value else .ok () with
    | .ok () => visit scan depth steps value
    | .error v => .error v

def visitItems (scan : TenantScan) (depth : Nat) (steps : List Json.Step) (index : Nat) :
    List Json → Except Violation Unit
  | [] => .ok ()
  | value :: rest =>
    match visit scan depth (.item index :: steps) value with
    | .ok () => visitItems scan depth steps (index + 1) rest
    | .error v => .error v

end

/-- Scans a value, if it carries a tenant. -/
def verify (scan : TenantScan) (value : Json) : Except Violation Unit :=
  if value.carriesTenant then scan.visit 0 [] value else .ok ()

/-- Scans a body. What cannot be read as JSON passes. -/
def verifyBody (scan : TenantScan) (body : Bytes) : Except Violation Unit :=
  match Json.read? body with
  | some value => scan.verify value
  | none => .ok ()

end TenantScan

end TenantLink
