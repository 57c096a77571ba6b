import StackAudit.Error
import StackAudit.Table
import StackAudit.Value

/-!
# Pseudo parameters

The parameters that every template has without declaring them. Their values say where a stack would
be deployed.
-/

namespace StackAudit

/-- The place and the name of a deployment. -/
structure PseudoParameters where
  accountId : String := "123456789012"
  region : String := "eu-west-1"
  partition : String := "aws"
  stackId : String :=
    "arn:aws:cloudformation:eu-west-1:123456789012:stack/stack-name/"
      ++ "00000000-0000-0000-0000-000000000000"
  stackName : String := "stack-name"
  urlSuffix : String := "amazonaws.com"
  notificationArns : List String := ["arn:aws:sns:eu-west-1:123456789012:notification-topic"]

namespace PseudoParameters

/-- The values by the names of the parameters. -/
def toParams (p : PseudoParameters) : Table Value :=
  .ofList [("AWS::AccountId", .string p.accountId),
    ("AWS::NotificationARNs", .list (p.notificationArns.map .string)),
    ("AWS::NoValue", .noValue),
    ("AWS::Partition", .string p.partition),
    ("AWS::Region", .string p.region),
    ("AWS::StackId", .string p.stackId),
    ("AWS::StackName", .string p.stackName),
    ("AWS::URLSuffix", .string p.urlSuffix)]

/-- Pseudo parameters in JSON. -/
def toJson (p : PseudoParameters) : Json :=
  .obj [("account_id", .str p.accountId), ("region", .str p.region),
    ("partition", .str p.partition), ("stack_id", .str p.stackId), ("stack_name", .str p.stackName),
    ("url_suffix", .str p.urlSuffix),
    ("notification_arns", .arr (p.notificationArns.map .str))]

/-- Reads pseudo parameters from JSON. Fields that are left out have their defaults. -/
def ofWritten? (written : Json.Written) : Option PseudoParameters := do
  let fields ← written.fields?
    ["account_id", "region", "partition", "stack_id", "stack_name", "url_suffix",
      "notification_arns"]
  let text (field : Option Json.Written) (default : String) : Option String :=
    match field with
    | none => some default
    | some content => content.text?
  match fields with
  | [accountId, region, partition, stackId, stackName, urlSuffix, notificationArns] =>
    let defaults : PseudoParameters := {}
    return {
      accountId := ← text accountId defaults.accountId
      region := ← text region defaults.region
      partition := ← text partition defaults.partition
      stackId := ← text stackId defaults.stackId
      stackName := ← text stackName defaults.stackName
      urlSuffix := ← text urlSuffix defaults.urlSuffix
      notificationArns := ← match notificationArns with
        | none => some defaults.notificationArns
        | some content => content.texts? }
  | _ => none

/-- Reads pseudo parameters from a JSON text. -/
def ofText (text : String) : Except Error PseudoParameters :=
  match Json.Written.ofText? text >>= ofWritten? with
  | some p => .ok p
  | none => .error .notJson

end PseudoParameters

end StackAudit
