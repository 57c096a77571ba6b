/-!
# Privileged actions

The actions whose grant deserves attention.
-/

namespace StackAudit.Catalog

/-- The bundled list of privileged actions. -/
def privilegedActions : List String :=
  ["cloudtrail:DeleteTrail", "cloudtrail:StopLogging", "ec2:CreateKeyPair", "ec2:GetPasswordData",
    "ec2:ModifySnapshotAttribute", "ec2:RunInstances", "ecr:SetRepositoryPolicy",
    "iam:AddUserToGroup", "iam:AttachGroupPolicy", "iam:AttachRolePolicy", "iam:AttachUserPolicy",
    "iam:CreateAccessKey", "iam:CreateLoginProfile", "iam:CreatePolicyVersion", "iam:PassRole",
    "iam:PutGroupPolicy", "iam:PutRolePolicy", "iam:PutUserPolicy", "iam:SetDefaultPolicyVersion",
    "iam:UpdateAssumeRolePolicy", "iam:UpdateLoginProfile", "kms:CreateGrant", "kms:Decrypt",
    "kms:PutKeyPolicy", "lambda:AddPermission", "lambda:CreateFunction",
    "lambda:UpdateFunctionCode", "s3:PutBucketAcl", "s3:PutBucketPolicy",
    "secretsmanager:GetSecretValue", "secretsmanager:PutResourcePolicy", "ssm:GetParameter",
    "ssm:SendCommand", "sts:AssumeRole"]

end StackAudit.Catalog
