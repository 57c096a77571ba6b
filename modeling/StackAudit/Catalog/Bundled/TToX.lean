/-!
# Actions of services: T to X

The privileges of the services whose names begin with `t` to `x`.
-/

namespace StackAudit.Catalog

/-- The services from `t` on, each with lines of privileges between blanks. -/
def servicesTToX : List (String × List String) :=
  [("tagging", [
      "DescribeReportCreation GetComplianceSummary GetResources GetTagKeys GetTagValues",
      "ListRequiredTags StartReportCreation TagResources UntagResources"]),
    ("tax", [
      "BatchDeleteTaxRegistration BatchGetTaxExemptions BatchPutTaxRegistration",
      "DeleteSupplementalTaxRegistration DeleteTaxRegistration GetTaxExemptionTypes",
      "GetTaxInheritance GetTaxRegistration GetTaxRegistrationDocument",
      "ListSupplementalTaxRegistrations ListTaxExemptions ListTaxRegistrations",
      "PutSupplementalTaxRegistration PutTaxExemption PutTaxInheritance PutTaxRegistration"]),
    ("textract", [
      "AnalyzeDocument AnalyzeExpense AnalyzeID CreateAdapter CreateAdapterVersion",
      "DeleteAdapter DeleteAdapterVersion DetectDocumentText GetAdapter GetAdapterVersion",
      "GetDocumentAnalysis GetDocumentTextDetection GetExpenseAnalysis GetLendingAnalysis",
      "GetLendingAnalysisSummary ListAdapterVersions ListAdapters ListTagsForResource",
      "StartDocumentAnalysis StartDocumentTextDetection StartExpenseAnalysis",
      "StartLendingAnalysis TagResource UntagResource UpdateAdapter"]),
    ("thinclient", [
      "CreateEnvironment DeleteDevice DeleteEnvironment DeregisterDevice GetDevice",
      "GetEnvironment GetSoftwareSet ListDevices ListEnvironments ListSoftwareSets",
      "ListTagsForResource TagResource UntagResource UpdateDevice UpdateEnvironment",
      "UpdateSoftwareSet"]),
    ("timestream", [
      "CancelQuery CreateBatchLoadTask CreateDatabase CreateScheduledQuery CreateTable",
      "DeleteDatabase DeleteScheduledQuery DeleteTable DescribeAccountSettings",
      "DescribeBatchLoadTask DescribeDatabase DescribeEndpoints DescribeScheduledQuery",
      "DescribeTable ExecuteScheduledQuery ListBatchLoadTasks ListDatabases",
      "ListScheduledQueries ListTables ListTagsForResource PrepareQuery Query",
      "ResumeBatchLoadTask TagResource UntagResource UpdateAccountSettings UpdateDatabase",
      "UpdateScheduledQuery UpdateTable WriteRecords"]),
    ("timestream-influxdb", [
      "CreateDbCluster CreateDbInstance CreateDbParameterGroup DeleteDbCluster DeleteDbInstance",
      "GetDbCluster GetDbInstance GetDbParameterGroup ListDbClusters ListDbInstances",
      "ListDbInstancesForCluster ListDbParameterGroups ListTagsForResource RebootDbCluster",
      "RebootDbInstance TagResource UntagResource UpdateDbCluster UpdateDbInstance"]),
    ("tnb", [
      "CancelSolNetworkOperation CreateSolFunctionPackage CreateSolNetworkInstance",
      "CreateSolNetworkPackage DeleteSolFunctionPackage DeleteSolNetworkInstance",
      "DeleteSolNetworkPackage GetSolFunctionInstance GetSolFunctionPackage",
      "GetSolFunctionPackageContent GetSolFunctionPackageDescriptor GetSolNetworkInstance",
      "GetSolNetworkOperation GetSolNetworkPackage GetSolNetworkPackageContent",
      "GetSolNetworkPackageDescriptor InstantiateSolNetworkInstance ListSolFunctionInstances",
      "ListSolFunctionPackages ListSolNetworkInstances ListSolNetworkOperations",
      "ListSolNetworkPackages ListTagsForResource PutSolFunctionPackageContent",
      "PutSolNetworkPackageContent TagResource TerminateSolNetworkInstance UntagResource",
      "UpdateSolFunctionPackage UpdateSolNetworkInstance UpdateSolNetworkPackage",
      "ValidateSolFunctionPackageContent ValidateSolNetworkPackageContent"]),
    ("transcribe", [
      "CreateCallAnalyticsCategory CreateLanguageModel CreateMedicalVocabulary CreateVocabulary",
      "CreateVocabularyFilter DeleteCallAnalyticsCategory DeleteCallAnalyticsJob",
      "DeleteLanguageModel DeleteMedicalScribeJob DeleteMedicalTranscriptionJob",
      "DeleteMedicalVocabulary DeleteTranscriptionJob DeleteVocabulary DeleteVocabularyFilter",
      "DescribeLanguageModel GetCallAnalyticsCategory GetCallAnalyticsJob GetMedicalScribeJob",
      "GetMedicalTranscriptionJob GetMedicalVocabulary GetTranscriptionJob GetVocabulary",
      "GetVocabularyFilter ListCallAnalyticsCategories ListCallAnalyticsJobs ListLanguageModels",
      "ListMedicalScribeJobs ListMedicalTranscriptionJobs ListMedicalVocabularies",
      "ListTagsForResource ListTranscriptionJobs ListVocabularies ListVocabularyFilters",
      "StartCallAnalyticsJob StartMedicalScribeJob StartMedicalTranscriptionJob",
      "StartTranscriptionJob TagResource UntagResource UpdateCallAnalyticsCategory",
      "UpdateMedicalVocabulary UpdateVocabulary UpdateVocabularyFilter"]),
    ("transfer", [
      "CreateAccess CreateAgreement CreateConnector CreateProfile CreateServer CreateUser",
      "CreateWebApp CreateWorkflow DeleteAccess DeleteAgreement DeleteCertificate",
      "DeleteConnector DeleteHostKey DeleteProfile DeleteServer DeleteSshPublicKey DeleteUser",
      "DeleteWebApp DeleteWebAppCustomization DeleteWorkflow DescribeAccess DescribeAgreement",
      "DescribeCertificate DescribeConnector DescribeExecution DescribeHostKey DescribeProfile",
      "DescribeSecurityPolicy DescribeServer DescribeUser DescribeWebApp",
      "DescribeWebAppCustomization DescribeWorkflow ImportCertificate ImportHostKey",
      "ImportSshPublicKey ListAccesses ListAgreements ListCertificates ListConnectors",
      "ListExecutions ListFileTransferResults ListHostKeys ListProfiles ListSecurityPolicies",
      "ListServers ListTagsForResource ListUsers ListWebApps ListWorkflows",
      "SendWorkflowStepState StartDirectoryListing StartFileTransfer StartRemoteDelete",
      "StartRemoteMove StartServer StopServer TagResource TestConnection TestIdentityProvider",
      "UntagResource UpdateAccess UpdateAgreement UpdateCertificate UpdateConnector",
      "UpdateHostKey UpdateProfile UpdateServer UpdateUser UpdateWebApp",
      "UpdateWebAppCustomization"]),
    ("translate", [
      "CreateParallelData DeleteParallelData DeleteTerminology DescribeTextTranslationJob",
      "GetParallelData GetTerminology ImportTerminology ListLanguages ListParallelData",
      "ListTagsForResource ListTerminologies ListTextTranslationJobs StartTextTranslationJob",
      "StopTextTranslationJob TagResource TranslateDocument TranslateText UntagResource",
      "UpdateParallelData"]),
    ("trustedadvisor", [
      "BatchUpdateRecommendationResourceExclusion GetOrganizationRecommendation",
      "GetRecommendation ListChecks ListOrganizationRecommendationAccounts",
      "ListOrganizationRecommendationResources ListOrganizationRecommendations",
      "ListRecommendationResources ListRecommendations",
      "UpdateOrganizationRecommendationLifecycle UpdateRecommendationLifecycle"]),
    ("uxc", ["GetAccountCustomizations ListServices UpdateAccountCustomizations"]),
    ("verifiedpermissions", [
      "BatchGetPolicy BatchIsAuthorized BatchIsAuthorizedWithToken CreateIdentitySource",
      "CreatePolicy CreatePolicyStore CreatePolicyStoreAlias CreatePolicyTemplate",
      "DeleteIdentitySource DeletePolicy DeletePolicyStore DeletePolicyStoreAlias",
      "DeletePolicyTemplate GetIdentitySource GetPolicy GetPolicyStore GetPolicyStoreAlias",
      "GetPolicyTemplate GetSchema IsAuthorized IsAuthorizedWithToken ListIdentitySources",
      "ListPolicies ListPolicyStoreAliases ListPolicyStores ListPolicyTemplates",
      "ListTagsForResource PutSchema TagResource UntagResource UpdateIdentitySource",
      "UpdatePolicy UpdatePolicyStore UpdatePolicyTemplate"]),
    ("voiceid", [
      "AssociateFraudster CreateDomain CreateWatchlist DeleteDomain DeleteFraudster",
      "DeleteSpeaker DeleteWatchlist DescribeDomain DescribeFraudster",
      "DescribeFraudsterRegistrationJob DescribeSpeaker DescribeSpeakerEnrollmentJob",
      "DescribeWatchlist DisassociateFraudster EvaluateSession ListDomains",
      "ListFraudsterRegistrationJobs ListFraudsters ListSpeakerEnrollmentJobs ListSpeakers",
      "ListTagsForResource ListWatchlists OptOutSpeaker StartFraudsterRegistrationJob",
      "StartSpeakerEnrollmentJob TagResource UntagResource UpdateDomain UpdateWatchlist"]),
    ("vpc-lattice", [
      "BatchUpdateRule CreateAccessLogSubscription CreateListener CreateResourceConfiguration",
      "CreateResourceGateway CreateRule CreateService CreateServiceNetwork",
      "CreateServiceNetworkResourceAssociation CreateServiceNetworkServiceAssociation",
      "CreateServiceNetworkVpcAssociation CreateTargetGroup DeleteAccessLogSubscription",
      "DeleteAuthPolicy DeleteDomainVerification DeleteListener DeleteResourceConfiguration",
      "DeleteResourceEndpointAssociation DeleteResourceGateway DeleteResourcePolicy DeleteRule",
      "DeleteService DeleteServiceNetwork DeleteServiceNetworkResourceAssociation",
      "DeleteServiceNetworkServiceAssociation DeleteServiceNetworkVpcAssociation",
      "DeleteTargetGroup DeregisterTargets GetAccessLogSubscription GetAuthPolicy",
      "GetDomainVerification GetListener GetResourceConfiguration GetResourceGateway",
      "GetResourcePolicy GetRule GetService GetServiceNetwork",
      "GetServiceNetworkResourceAssociation GetServiceNetworkServiceAssociation",
      "GetServiceNetworkVpcAssociation GetTargetGroup ListAccessLogSubscriptions",
      "ListDomainVerifications ListListeners ListResourceConfigurations",
      "ListResourceEndpointAssociations ListResourceGateways ListRules",
      "ListServiceNetworkResourceAssociations ListServiceNetworkServiceAssociations",
      "ListServiceNetworkVpcAssociations ListServiceNetworkVpcEndpointAssociations",
      "ListServiceNetworks ListServices ListTagsForResource ListTargetGroups ListTargets",
      "PutAuthPolicy PutResourcePolicy RegisterTargets StartDomainVerification TagResource",
      "UntagResource UpdateAccessLogSubscription UpdateListener UpdateResourceConfiguration",
      "UpdateResourceGateway UpdateRule UpdateService UpdateServiceNetwork",
      "UpdateServiceNetworkVpcAssociation UpdateTargetGroup"]),
    ("waf", [
      "CreateByteMatchSet CreateGeoMatchSet CreateIPSet CreateRateBasedRule CreateRegexMatchSet",
      "CreateRegexPatternSet CreateRule CreateRuleGroup CreateSizeConstraintSet",
      "CreateSqlInjectionMatchSet CreateWebACL CreateWebACLMigrationStack CreateXssMatchSet",
      "DeleteByteMatchSet DeleteGeoMatchSet DeleteIPSet DeleteLoggingConfiguration",
      "DeletePermissionPolicy DeleteRateBasedRule DeleteRegexMatchSet DeleteRegexPatternSet",
      "DeleteRule DeleteRuleGroup DeleteSizeConstraintSet DeleteSqlInjectionMatchSet",
      "DeleteWebACL DeleteXssMatchSet GetByteMatchSet GetChangeToken GetChangeTokenStatus",
      "GetGeoMatchSet GetIPSet GetLoggingConfiguration GetPermissionPolicy GetRateBasedRule",
      "GetRateBasedRuleManagedKeys GetRegexMatchSet GetRegexPatternSet GetRule GetRuleGroup",
      "GetSampledRequests GetSizeConstraintSet GetSqlInjectionMatchSet GetWebACL GetXssMatchSet",
      "ListActivatedRulesInRuleGroup ListByteMatchSets ListGeoMatchSets ListIPSets",
      "ListLoggingConfigurations ListRateBasedRules ListRegexMatchSets ListRegexPatternSets",
      "ListRuleGroups ListRules ListSizeConstraintSets ListSqlInjectionMatchSets",
      "ListSubscribedRuleGroups ListTagsForResource ListWebACLs ListXssMatchSets",
      "PutLoggingConfiguration PutPermissionPolicy TagResource UntagResource UpdateByteMatchSet",
      "UpdateGeoMatchSet UpdateIPSet UpdateRateBasedRule UpdateRegexMatchSet",
      "UpdateRegexPatternSet UpdateRule UpdateRuleGroup UpdateSizeConstraintSet",
      "UpdateSqlInjectionMatchSet UpdateWebACL UpdateXssMatchSet"]),
    ("waf-regional", [
      "AssociateWebACL CreateByteMatchSet CreateGeoMatchSet CreateIPSet CreateRateBasedRule",
      "CreateRegexMatchSet CreateRegexPatternSet CreateRule CreateRuleGroup",
      "CreateSizeConstraintSet CreateSqlInjectionMatchSet CreateWebACL",
      "CreateWebACLMigrationStack CreateXssMatchSet DeleteByteMatchSet DeleteGeoMatchSet",
      "DeleteIPSet DeleteLoggingConfiguration DeletePermissionPolicy DeleteRateBasedRule",
      "DeleteRegexMatchSet DeleteRegexPatternSet DeleteRule DeleteRuleGroup",
      "DeleteSizeConstraintSet DeleteSqlInjectionMatchSet DeleteWebACL DeleteXssMatchSet",
      "DisassociateWebACL GetByteMatchSet GetChangeToken GetChangeTokenStatus GetGeoMatchSet",
      "GetIPSet GetLoggingConfiguration GetPermissionPolicy GetRateBasedRule",
      "GetRateBasedRuleManagedKeys GetRegexMatchSet GetRegexPatternSet GetRule GetRuleGroup",
      "GetSampledRequests GetSizeConstraintSet GetSqlInjectionMatchSet GetWebACL",
      "GetWebACLForResource GetXssMatchSet ListActivatedRulesInRuleGroup ListByteMatchSets",
      "ListGeoMatchSets ListIPSets ListLoggingConfigurations ListRateBasedRules",
      "ListRegexMatchSets ListRegexPatternSets ListResourcesForWebACL ListRuleGroups ListRules",
      "ListSizeConstraintSets ListSqlInjectionMatchSets ListSubscribedRuleGroups",
      "ListTagsForResource ListWebACLs ListXssMatchSets PutLoggingConfiguration",
      "PutPermissionPolicy TagResource UntagResource UpdateByteMatchSet UpdateGeoMatchSet",
      "UpdateIPSet UpdateRateBasedRule UpdateRegexMatchSet UpdateRegexPatternSet UpdateRule",
      "UpdateRuleGroup UpdateSizeConstraintSet UpdateSqlInjectionMatchSet UpdateWebACL",
      "UpdateXssMatchSet"]),
    ("wafv2", [
      "AssociateWebACL CheckCapacity CreateAPIKey CreateIPSet CreateRegexPatternSet",
      "CreateRuleGroup CreateWebACL DeleteAPIKey DeleteFirewallManagerRuleGroups DeleteIPSet",
      "DeleteLoggingConfiguration DeletePermissionPolicy DeleteRegexPatternSet DeleteRuleGroup",
      "DeleteWebACL DescribeAllManagedProducts DescribeManagedProductsByVendor",
      "DescribeManagedRuleGroup DisassociateWebACL GenerateMobileSdkReleaseUrl",
      "GetDecryptedAPIKey GetIPSet GetLoggingConfiguration GetManagedRuleSet",
      "GetMobileSdkRelease GetPermissionPolicy GetRateBasedStatementManagedKeys",
      "GetRegexPatternSet GetRuleGroup GetSampledRequests GetTopPathStatisticsByTraffic",
      "GetWebACL GetWebACLForResource ListAPIKeys ListAvailableManagedRuleGroupVersions",
      "ListAvailableManagedRuleGroups ListIPSets ListLoggingConfigurations ListManagedRuleSets",
      "ListMobileSdkReleases ListRegexPatternSets ListResourcesForWebACL ListRuleGroups",
      "ListTagsForResource ListWebACLs PutLoggingConfiguration PutManagedRuleSetVersions",
      "PutPermissionPolicy TagResource UntagResource UpdateIPSet",
      "UpdateManagedRuleSetVersionExpiryDate UpdateRegexPatternSet UpdateRuleGroup UpdateWebACL"]),
    ("wellarchitected", [
      "AssociateLenses AssociateProfiles CreateLensShare CreateLensVersion CreateMilestone",
      "CreateProfile CreateProfileShare CreateReviewTemplate CreateTemplateShare CreateWorkload",
      "CreateWorkloadShare DeleteLens DeleteLensShare DeleteProfile DeleteProfileShare",
      "DeleteReviewTemplate DeleteTemplateShare DeleteWorkload DeleteWorkloadShare",
      "DisassociateLenses DisassociateProfiles ExportLens GetAnswer GetConsolidatedReport",
      "GetGlobalSettings GetLens GetLensReview GetLensReviewReport GetLensVersionDifference",
      "GetMilestone GetProfile GetProfileTemplate GetReviewTemplate GetReviewTemplateAnswer",
      "GetReviewTemplateLensReview GetWorkload ImportLens ListAnswers ListCheckDetails",
      "ListCheckSummaries ListLensReviewImprovements ListLensReviews ListLensShares ListLenses",
      "ListMilestones ListNotifications ListProfileNotifications ListProfileShares ListProfiles",
      "ListReviewTemplateAnswers ListReviewTemplates ListShareInvitations ListTagsForResource",
      "ListTemplateShares ListWorkloadShares ListWorkloads TagResource UntagResource",
      "UpdateAnswer UpdateGlobalSettings UpdateIntegration UpdateLensReview UpdateProfile",
      "UpdateReviewTemplate UpdateReviewTemplateAnswer UpdateReviewTemplateLensReview",
      "UpdateShareInvitation UpdateWorkload UpdateWorkloadShare UpgradeLensReview",
      "UpgradeProfileVersion UpgradeReviewTemplateLensReview"]),
    ("wickr", [
      "BatchCreateUser BatchDeleteUser BatchLookupUserUname BatchReinviteUser",
      "BatchResetDevicesForUser BatchToggleUserSuspendStatus CreateBot CreateDataRetentionBot",
      "CreateDataRetentionBotChallenge CreateNetwork CreateSecurityGroup DeleteBot",
      "DeleteDataRetentionBot DeleteNetwork DeleteSecurityGroup GetBot GetBotsCount",
      "GetDataRetentionBot GetGuestUserHistoryCount GetNetwork GetNetworkSettings GetOidcInfo",
      "GetOpentdfConfig GetSecurityGroup GetUser GetUsersCount ListBlockedGuestUsers ListBots",
      "ListDevicesForUser ListGuestUsers ListNetworks ListSecurityGroupUsers ListSecurityGroups",
      "ListUsers RegisterOidcConfig RegisterOidcConfigTest RegisterOpentdfConfig UpdateBot",
      "UpdateDataRetention UpdateGuestUser UpdateNetwork UpdateNetworkSettings",
      "UpdateSecurityGroup UpdateUser"]),
    ("wisdom", [
      "ActivateMessageTemplate CreateAIAgent CreateAIAgentVersion CreateAIGuardrail",
      "CreateAIGuardrailVersion CreateAIPrompt CreateAIPromptVersion CreateAssistant",
      "CreateAssistantAssociation CreateContent CreateContentAssociation CreateKnowledgeBase",
      "CreateMessageTemplate CreateMessageTemplateAttachment CreateMessageTemplateVersion",
      "CreateQuickResponse CreateSession DeactivateMessageTemplate DeleteAIAgent",
      "DeleteAIAgentVersion DeleteAIGuardrail DeleteAIGuardrailVersion DeleteAIPrompt",
      "DeleteAIPromptVersion DeleteAssistant DeleteAssistantAssociation DeleteContent",
      "DeleteContentAssociation DeleteImportJob DeleteKnowledgeBase DeleteMessageTemplate",
      "DeleteMessageTemplateAttachment DeleteQuickResponse GetAIAgent GetAIGuardrail",
      "GetAIPrompt GetAssistant GetAssistantAssociation GetContent GetContentAssociation",
      "GetContentSummary GetImportJob GetKnowledgeBase GetMessageTemplate GetNextMessage",
      "GetQuickResponse GetRecommendations GetSession ListAIAgentVersions ListAIAgents",
      "ListAIGuardrailVersions ListAIGuardrails ListAIPromptVersions ListAIPrompts",
      "ListAssistantAssociations ListAssistants ListContentAssociations ListContents",
      "ListImportJobs ListKnowledgeBases ListMessageTemplateVersions ListMessageTemplates",
      "ListMessages ListModels ListQuickResponses ListSpans ListTagsForResource",
      "NotifyRecommendationsReceived PutFeedback QueryAssistant RemoveAssistantAIAgent",
      "RemoveKnowledgeBaseTemplateUri RenderMessageTemplate Retrieve SearchContent",
      "SearchMessageTemplates SearchQuickResponses SearchSessions SendMessage",
      "StartContentUpload StartImportJob TagResource UntagResource UpdateAIAgent",
      "UpdateAIGuardrail UpdateAIPrompt UpdateAssistantAIAgent UpdateContent",
      "UpdateKnowledgeBaseTemplateUri UpdateMessageTemplate UpdateMessageTemplateMetadata",
      "UpdateQuickResponse UpdateSession UpdateSessionData"]),
    ("workdocs", [
      "AbortDocumentVersionUpload ActivateUser AddResourcePermissions CreateComment",
      "CreateCustomMetadata CreateFolder CreateLabels CreateNotificationSubscription CreateUser",
      "DeactivateUser DeleteComment DeleteCustomMetadata DeleteDocument DeleteDocumentVersion",
      "DeleteFolder DeleteFolderContents DeleteLabels DeleteNotificationSubscription DeleteUser",
      "DescribeActivities DescribeComments DescribeDocumentVersions DescribeFolderContents",
      "DescribeGroups DescribeNotificationSubscriptions DescribeResourcePermissions",
      "DescribeRootFolders DescribeUsers GetCurrentUser GetDocument GetDocumentPath",
      "GetDocumentVersion GetFolder GetFolderPath GetResources InitiateDocumentVersionUpload",
      "RemoveAllResourcePermissions RemoveResourcePermission RestoreDocumentVersions",
      "SearchResources UpdateDocument UpdateDocumentVersion UpdateFolder UpdateUser"]),
    ("workmail", [
      "AssociateDelegateToResource AssociateMemberToGroup AssumeImpersonationRole",
      "CancelMailboxExportJob CreateAlias CreateAvailabilityConfiguration CreateGroup",
      "CreateIdentityCenterApplication CreateImpersonationRole CreateMobileDeviceAccessRule",
      "CreateOrganization CreateResource CreateUser DeleteAccessControlRule DeleteAlias",
      "DeleteAvailabilityConfiguration DeleteEmailMonitoringConfiguration DeleteGroup",
      "DeleteIdentityCenterApplication DeleteIdentityProviderConfiguration",
      "DeleteImpersonationRole DeleteMailboxPermissions DeleteMobileDeviceAccessOverride",
      "DeleteMobileDeviceAccessRule DeleteOrganization DeletePersonalAccessToken DeleteResource",
      "DeleteRetentionPolicy DeleteUser DeregisterFromWorkMail DeregisterMailDomain",
      "DescribeEmailMonitoringConfiguration DescribeEntity DescribeGroup",
      "DescribeIdentityProviderConfiguration DescribeInboundDmarcSettings",
      "DescribeMailboxExportJob DescribeOrganization DescribeResource DescribeUser",
      "DisassociateDelegateFromResource DisassociateMemberFromGroup GetAccessControlEffect",
      "GetDefaultRetentionPolicy GetImpersonationRole GetImpersonationRoleEffect GetMailDomain",
      "GetMailboxDetails GetMobileDeviceAccessEffect GetMobileDeviceAccessOverride",
      "GetPersonalAccessTokenMetadata ListAccessControlRules ListAliases",
      "ListAvailabilityConfigurations ListGroupMembers ListGroups ListGroupsForEntity",
      "ListImpersonationRoles ListMailDomains ListMailboxExportJobs ListMailboxPermissions",
      "ListMobileDeviceAccessOverrides ListMobileDeviceAccessRules ListOrganizations",
      "ListPersonalAccessTokens ListResourceDelegates ListResources ListTagsForResource",
      "ListUsers PutAccessControlRule PutEmailMonitoringConfiguration",
      "PutIdentityProviderConfiguration PutInboundDmarcSettings PutMailboxPermissions",
      "PutMobileDeviceAccessOverride PutRetentionPolicy RegisterMailDomain RegisterToWorkMail",
      "ResetPassword StartMailboxExportJob TagResource TestAvailabilityConfiguration",
      "UntagResource UpdateAvailabilityConfiguration UpdateDefaultMailDomain UpdateGroup",
      "UpdateImpersonationRole UpdateMailboxQuota UpdateMobileDeviceAccessRule",
      "UpdatePrimaryEmailAddress UpdateResource UpdateUser"]),
    ("workmailmessageflow", ["GetRawMessageContent PutRawMessageContent"]),
    ("workspaces", [
      "AcceptAccountLinkInvitation AssociateConnectionAlias AssociateIpGroups",
      "AssociateWorkspaceApplication AuthorizeIpRules CopyWorkspaceImage",
      "CreateAccountLinkInvitation CreateConnectClientAddIn CreateConnectionAlias CreateIpGroup",
      "CreateStandbyWorkspaces CreateTags CreateUpdatedWorkspaceImage CreateWorkspaceBundle",
      "CreateWorkspaceImage CreateWorkspaces CreateWorkspacesPool DeleteAccountLinkInvitation",
      "DeleteClientBranding DeleteConnectClientAddIn DeleteConnectionAlias DeleteIpGroup",
      "DeleteTags DeleteWorkspaceBundle DeleteWorkspaceImage DeployWorkspaceApplications",
      "DeregisterWorkspaceDirectory DescribeAccount DescribeAccountModifications",
      "DescribeApplicationAssociations DescribeApplications DescribeBundleAssociations",
      "DescribeClientBranding DescribeClientProperties DescribeConnectClientAddIns",
      "DescribeConnectionAliasPermissions DescribeConnectionAliases",
      "DescribeCustomWorkspaceImageImport DescribeImageAssociations DescribeIpGroups",
      "DescribeTags DescribeWorkspaceAssociations DescribeWorkspaceBundles",
      "DescribeWorkspaceDirectories DescribeWorkspaceImagePermissions DescribeWorkspaceImages",
      "DescribeWorkspaceSnapshots DescribeWorkspaces DescribeWorkspacesConnectionStatus",
      "DescribeWorkspacesPoolSessions DescribeWorkspacesPools DisassociateConnectionAlias",
      "DisassociateIpGroups DisassociateWorkspaceApplication GetAccountLink",
      "ImportClientBranding ImportCustomWorkspaceImage ImportWorkspaceImage ListAccountLinks",
      "ListAvailableManagementCidrRanges MigrateWorkspace ModifyAccount",
      "ModifyCertificateBasedAuthProperties ModifyClientProperties ModifyEndpointEncryptionMode",
      "ModifySamlProperties ModifySelfservicePermissions ModifyStreamingProperties",
      "ModifyWorkspaceAccessProperties ModifyWorkspaceCreationProperties",
      "ModifyWorkspaceProperties ModifyWorkspaceState RebootWorkspaces RebuildWorkspaces",
      "RegisterWorkspaceDirectory RejectAccountLinkInvitation RestoreWorkspace RevokeIpRules",
      "StartWorkspaces StartWorkspacesPool StopWorkspaces StopWorkspacesPool",
      "TerminateWorkspaces TerminateWorkspacesPool TerminateWorkspacesPoolSession",
      "UpdateConnectClientAddIn UpdateConnectionAliasPermission UpdateRulesOfIpGroup",
      "UpdateWorkspaceBundle UpdateWorkspaceImagePermission UpdateWorkspacesPool"]),
    ("workspaces-instances", [
      "AssociateVolume CreateVolume CreateWorkspaceInstance DeleteVolume",
      "DeleteWorkspaceInstance DisassociateVolume GetWorkspaceInstance ListInstanceTypes",
      "ListRegions ListTagsForResource ListWorkspaceInstances TagResource UntagResource"]),
    ("workspaces-web", [
      "AssociateBrowserSettings AssociateDataProtectionSettings AssociateIpAccessSettings",
      "AssociateNetworkSettings AssociateSessionLogger AssociateTrustStore",
      "AssociateUserAccessLoggingSettings AssociateUserSettings CreateBrowserSettings",
      "CreateDataProtectionSettings CreateIdentityProvider CreateIpAccessSettings",
      "CreateNetworkSettings CreatePortal CreateSessionLogger CreateTrustStore",
      "CreateUserAccessLoggingSettings CreateUserSettings DeleteBrowserSettings",
      "DeleteDataProtectionSettings DeleteIdentityProvider DeleteIpAccessSettings",
      "DeleteNetworkSettings DeletePortal DeleteSessionLogger DeleteTrustStore",
      "DeleteUserAccessLoggingSettings DeleteUserSettings DisassociateBrowserSettings",
      "DisassociateDataProtectionSettings DisassociateIpAccessSettings",
      "DisassociateNetworkSettings DisassociateSessionLogger DisassociateTrustStore",
      "DisassociateUserAccessLoggingSettings DisassociateUserSettings ExpireSession",
      "GetBrowserSettings GetDataProtectionSettings GetIdentityProvider GetIpAccessSettings",
      "GetNetworkSettings GetPortal GetPortalServiceProviderMetadata GetSession",
      "GetSessionLogger GetTrustStore GetTrustStoreCertificate GetUserAccessLoggingSettings",
      "GetUserSettings ListBrowserSettings ListDataProtectionSettings ListIdentityProviders",
      "ListIpAccessSettings ListNetworkSettings ListPortals ListSessionLoggers ListSessions",
      "ListTagsForResource ListTrustStoreCertificates ListTrustStores",
      "ListUserAccessLoggingSettings ListUserSettings TagResource UntagResource",
      "UpdateBrowserSettings UpdateDataProtectionSettings UpdateIdentityProvider",
      "UpdateIpAccessSettings UpdateNetworkSettings UpdatePortal UpdateSessionLogger",
      "UpdateTrustStore UpdateUserAccessLoggingSettings UpdateUserSettings"]),
    ("xray", [
      "BatchGetTraces CancelTraceRetrieval CreateGroup CreateSamplingRule DeleteGroup",
      "DeleteResourcePolicy DeleteSamplingRule GetEncryptionConfig GetGroup GetGroups",
      "GetIndexingRules GetInsight GetInsightEvents GetInsightImpactGraph GetInsightSummaries",
      "GetRetrievedTracesGraph GetSamplingRules GetSamplingStatisticSummaries",
      "GetSamplingTargets GetServiceGraph GetTimeSeriesServiceStatistics GetTraceGraph",
      "GetTraceSegmentDestination GetTraceSummaries ListResourcePolicies ListRetrievedTraces",
      "ListTagsForResource PutEncryptionConfig PutResourcePolicy PutTelemetryRecords",
      "PutTraceSegments StartTraceRetrieval TagResource UntagResource UpdateGroup",
      "UpdateIndexingRule UpdateSamplingRule UpdateTraceSegmentDestination"])]

end StackAudit.Catalog
