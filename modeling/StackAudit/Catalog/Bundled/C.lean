/-!
# Actions of services: C

The privileges of the services whose names begin with `c`.
-/

namespace StackAudit.Catalog

/-- The services with `c`, each with lines of privileges between blanks. -/
def servicesC : List (String × List String) :=
  [("cases", [
      "BatchGetCaseRule BatchGetField BatchPutFieldOptions CreateCase CreateCaseRule",
      "CreateDomain CreateField CreateLayout CreateRelatedItem CreateTemplate DeleteCase",
      "DeleteCaseRule DeleteDomain DeleteField DeleteLayout DeleteRelatedItem DeleteTemplate",
      "GetCase GetCaseAuditEvents GetCaseEventConfiguration GetDomain GetLayout GetTemplate",
      "ListCaseRules ListCasesForContact ListDomains ListFieldOptions ListFields ListLayouts",
      "ListTagsForResource ListTemplates PutCaseEventConfiguration SearchAllRelatedItems",
      "SearchCases SearchRelatedItems TagResource UntagResource UpdateCase UpdateCaseRule",
      "UpdateField UpdateLayout UpdateRelatedItem UpdateTemplate"]),
    ("cassandra", [
      "CreateKeyspace CreateTable CreateType DeleteKeyspace DeleteTable DeleteType GetKeyspace",
      "GetRecords GetShardIterator GetStream GetTable GetTableAutoScalingSettings GetType",
      "ListKeyspaces ListStreams ListTables ListTagsForResource ListTypes RestoreTable",
      "TagResource UntagResource UpdateKeyspace UpdateTable"]),
    ("ce", [
      "CreateAnomalyMonitor CreateAnomalySubscription CreateCostCategoryDefinition",
      "DeleteAnomalyMonitor DeleteAnomalySubscription DeleteCostCategoryDefinition",
      "DescribeCostCategoryDefinition GetAnomalies GetAnomalyMonitors GetAnomalySubscriptions",
      "GetApproximateUsageRecords GetCommitmentPurchaseAnalysis GetCostAndUsage",
      "GetCostAndUsageComparisons GetCostAndUsageWithResources GetCostCategories",
      "GetCostComparisonDrivers GetCostForecast GetDimensionValues GetReservationCoverage",
      "GetReservationPurchaseRecommendation GetReservationUtilization",
      "GetRightsizingRecommendation GetSavingsPlanPurchaseRecommendationDetails",
      "GetSavingsPlansCoverage GetSavingsPlansPurchaseRecommendation GetSavingsPlansUtilization",
      "GetSavingsPlansUtilizationDetails GetTags GetUsageForecast",
      "ListCommitmentPurchaseAnalyses ListCostAllocationTagBackfillHistory",
      "ListCostAllocationTags ListCostCategoryDefinitions ListCostCategoryResourceAssociations",
      "ListSavingsPlansPurchaseRecommendationGeneration ListTagsForResource",
      "ProvideAnomalyFeedback StartCommitmentPurchaseAnalysis StartCostAllocationTagBackfill",
      "StartSavingsPlansPurchaseRecommendationGeneration TagResource UntagResource",
      "UpdateAnomalyMonitor UpdateAnomalySubscription UpdateCostAllocationTagsStatus",
      "UpdateCostCategoryDefinition"]),
    ("chatbot", [
      "AssociateToConfiguration CreateChimeWebhookConfiguration CreateCustomAction",
      "CreateMicrosoftTeamsChannelConfiguration CreateSlackChannelConfiguration",
      "DeleteChimeWebhookConfiguration DeleteCustomAction",
      "DeleteMicrosoftTeamsChannelConfiguration DeleteMicrosoftTeamsConfiguredTeam",
      "DeleteMicrosoftTeamsUserIdentity DeleteSlackChannelConfiguration DeleteSlackUserIdentity",
      "DeleteSlackWorkspaceAuthorization DescribeChimeWebhookConfigurations",
      "DescribeSlackChannelConfigurations DescribeSlackUserIdentities DescribeSlackWorkspaces",
      "DisassociateFromConfiguration GetAccountPreferences GetCustomAction",
      "GetMicrosoftTeamsChannelConfiguration ListAssociations ListCustomActions",
      "ListMicrosoftTeamsChannelConfigurations ListMicrosoftTeamsConfiguredTeams",
      "ListMicrosoftTeamsUserIdentities ListTagsForResource TagResource UntagResource",
      "UpdateAccountPreferences UpdateChimeWebhookConfiguration UpdateCustomAction",
      "UpdateMicrosoftTeamsChannelConfiguration UpdateSlackChannelConfiguration"]),
    ("chime", [
      "AssociateChannelFlow AssociatePhoneNumberWithUser",
      "AssociatePhoneNumbersWithVoiceConnector AssociatePhoneNumbersWithVoiceConnectorGroup",
      "AssociateSigninDelegateGroupsWithAccount BatchCreateAttendee",
      "BatchCreateChannelMembership BatchCreateRoomMembership BatchDeletePhoneNumber",
      "BatchSuspendUser BatchUnsuspendUser BatchUpdateAttendeeCapabilitiesExcept",
      "BatchUpdatePhoneNumber BatchUpdateUser ChannelFlowCallback CreateAccount",
      "CreateAppInstance CreateAppInstanceAdmin CreateAppInstanceBot CreateAppInstanceUser",
      "CreateAttendee CreateBot CreateChannel CreateChannelBan CreateChannelFlow",
      "CreateChannelMembership CreateChannelModerator CreateMediaCapturePipeline",
      "CreateMediaConcatenationPipeline CreateMediaInsightsPipeline",
      "CreateMediaInsightsPipelineConfiguration CreateMediaLiveConnectorPipeline",
      "CreateMediaPipelineKinesisVideoStreamPool CreateMediaStreamPipeline CreateMeeting",
      "CreateMeetingDialOut CreateMeetingWithAttendees CreatePhoneNumberOrder",
      "CreateProxySession CreateRoom CreateRoomMembership CreateSipMediaApplication",
      "CreateSipMediaApplicationCall CreateSipRule CreateUser CreateVoiceConnector",
      "CreateVoiceConnectorGroup CreateVoiceProfile CreateVoiceProfileDomain DeleteAccount",
      "DeleteAppInstance DeleteAppInstanceAdmin DeleteAppInstanceBot DeleteAppInstanceUser",
      "DeleteAttendee DeleteChannel DeleteChannelBan DeleteChannelFlow DeleteChannelMembership",
      "DeleteChannelMessage DeleteChannelModerator DeleteEventsConfiguration",
      "DeleteMediaCapturePipeline DeleteMediaInsightsPipelineConfiguration DeleteMediaPipeline",
      "DeleteMediaPipelineKinesisVideoStreamPool DeleteMeeting",
      "DeleteMessagingStreamingConfigurations DeletePhoneNumber DeleteProxySession DeleteRoom",
      "DeleteRoomMembership DeleteSipMediaApplication DeleteSipRule DeleteVoiceConnector",
      "DeleteVoiceConnectorEmergencyCallingConfiguration",
      "DeleteVoiceConnectorExternalSystemsConfiguration DeleteVoiceConnectorGroup",
      "DeleteVoiceConnectorOrigination DeleteVoiceConnectorProxy",
      "DeleteVoiceConnectorStreamingConfiguration DeleteVoiceConnectorTermination",
      "DeleteVoiceConnectorTerminationCredentials DeleteVoiceProfile DeleteVoiceProfileDomain",
      "DeregisterAppInstanceUserEndpoint DescribeAppInstance DescribeAppInstanceAdmin",
      "DescribeAppInstanceBot DescribeAppInstanceUser DescribeAppInstanceUserEndpoint",
      "DescribeChannel DescribeChannelBan DescribeChannelFlow DescribeChannelMembership",
      "DescribeChannelMembershipForAppInstanceUser DescribeChannelModeratedByAppInstanceUser",
      "DescribeChannelModerator DisassociateChannelFlow DisassociatePhoneNumberFromUser",
      "DisassociatePhoneNumbersFromVoiceConnector",
      "DisassociatePhoneNumbersFromVoiceConnectorGroup",
      "DisassociateSigninDelegateGroupsFromAccount GetAccount GetAccountSettings",
      "GetAppInstanceRetentionSettings GetAttendee GetBot GetChannelMembershipPreferences",
      "GetChannelMessage GetChannelMessageStatus GetEventsConfiguration GetGlobalSettings",
      "GetMediaCapturePipeline GetMediaInsightsPipelineConfiguration GetMediaPipeline",
      "GetMediaPipelineKinesisVideoStreamPool GetMeeting GetMessagingSessionEndpoint",
      "GetMessagingStreamingConfigurations GetPhoneNumber GetPhoneNumberOrder",
      "GetPhoneNumberSettings GetProxySession GetRetentionSettings GetRoom",
      "GetSipMediaApplication GetSipMediaApplicationAlexaSkillConfiguration",
      "GetSipMediaApplicationLoggingConfiguration GetSipRule GetSpeakerSearchTask GetUser",
      "GetUserSettings GetVoiceConnector GetVoiceConnectorEmergencyCallingConfiguration",
      "GetVoiceConnectorExternalSystemsConfiguration GetVoiceConnectorGroup",
      "GetVoiceConnectorLoggingConfiguration GetVoiceConnectorOrigination",
      "GetVoiceConnectorProxy GetVoiceConnectorStreamingConfiguration",
      "GetVoiceConnectorTermination GetVoiceConnectorTerminationHealth GetVoiceProfile",
      "GetVoiceProfileDomain GetVoiceToneAnalysisTask InviteUsers ListAccounts",
      "ListAppInstanceAdmins ListAppInstanceBots ListAppInstanceUserEndpoints",
      "ListAppInstanceUsers ListAppInstances ListAttendees ListAvailableVoiceConnectorRegions",
      "ListBots ListChannelBans ListChannelFlows ListChannelMemberships",
      "ListChannelMembershipsForAppInstanceUser ListChannelMessages ListChannelModerators",
      "ListChannels ListChannelsAssociatedWithChannelFlow",
      "ListChannelsModeratedByAppInstanceUser ListMediaCapturePipelines",
      "ListMediaInsightsPipelineConfigurations ListMediaPipelineKinesisVideoStreamPools",
      "ListMediaPipelines ListPhoneNumberOrders ListPhoneNumbers ListProxySessions",
      "ListRoomMemberships ListRooms ListSipMediaApplications ListSipRules ListSubChannels",
      "ListSupportedPhoneNumberCountries ListTagsForResource ListUsers ListVoiceConnectorGroups",
      "ListVoiceConnectorTerminationCredentials ListVoiceConnectors ListVoiceProfileDomains",
      "ListVoiceProfiles LogoutUser PutAppInstanceRetentionSettings",
      "PutAppInstanceUserExpirationSettings PutChannelExpirationSettings",
      "PutChannelMembershipPreferences PutEventsConfiguration",
      "PutMessagingStreamingConfigurations PutRetentionSettings",
      "PutSipMediaApplicationAlexaSkillConfiguration PutSipMediaApplicationLoggingConfiguration",
      "PutVoiceConnectorEmergencyCallingConfiguration",
      "PutVoiceConnectorExternalSystemsConfiguration PutVoiceConnectorLoggingConfiguration",
      "PutVoiceConnectorOrigination PutVoiceConnectorProxy",
      "PutVoiceConnectorStreamingConfiguration PutVoiceConnectorTermination",
      "PutVoiceConnectorTerminationCredentials RedactChannelMessage RedactConversationMessage",
      "RedactRoomMessage RegenerateSecurityToken RegisterAppInstanceUserEndpoint",
      "ResetPersonalPIN RestorePhoneNumber SearchAvailablePhoneNumbers SearchChannels",
      "SendChannelMessage StartMeetingTranscription StartSpeakerSearchTask",
      "StartVoiceToneAnalysisTask StopMeetingTranscription StopSpeakerSearchTask",
      "StopVoiceToneAnalysisTask TagResource UntagResource UpdateAccount UpdateAccountSettings",
      "UpdateAppInstance UpdateAppInstanceBot UpdateAppInstanceUser",
      "UpdateAppInstanceUserEndpoint UpdateAttendeeCapabilities UpdateBot UpdateChannel",
      "UpdateChannelFlow UpdateChannelMessage UpdateChannelReadMarker UpdateGlobalSettings",
      "UpdateMediaInsightsPipelineConfiguration UpdateMediaInsightsPipelineStatus",
      "UpdateMediaPipelineKinesisVideoStreamPool UpdatePhoneNumber UpdatePhoneNumberSettings",
      "UpdateProxySession UpdateRoom UpdateRoomMembership UpdateSipMediaApplication",
      "UpdateSipMediaApplicationCall UpdateSipRule UpdateUser UpdateUserSettings",
      "UpdateVoiceConnector UpdateVoiceConnectorGroup UpdateVoiceProfile",
      "UpdateVoiceProfileDomain ValidateE911Address"]),
    ("cleanrooms", [
      "BatchGetCollaborationAnalysisTemplate BatchGetSchema BatchGetSchemaAnalysisRule",
      "CreateAnalysisTemplate CreateCollaboration CreateCollaborationChangeRequest",
      "CreateConfiguredAudienceModelAssociation CreateConfiguredTable",
      "CreateConfiguredTableAnalysisRule CreateConfiguredTableAssociation",
      "CreateConfiguredTableAssociationAnalysisRule CreateIdMappingTable",
      "CreateIdNamespaceAssociation CreateMembership CreatePrivacyBudgetTemplate",
      "DeleteAnalysisTemplate DeleteCollaboration DeleteConfiguredAudienceModelAssociation",
      "DeleteConfiguredTable DeleteConfiguredTableAnalysisRule DeleteConfiguredTableAssociation",
      "DeleteConfiguredTableAssociationAnalysisRule DeleteIdMappingTable",
      "DeleteIdNamespaceAssociation DeleteMember DeleteMembership DeletePrivacyBudgetTemplate",
      "GetAnalysisTemplate GetCollaboration GetCollaborationAnalysisTemplate",
      "GetCollaborationChangeRequest GetCollaborationConfiguredAudienceModelAssociation",
      "GetCollaborationIdNamespaceAssociation GetCollaborationPrivacyBudgetTemplate",
      "GetConfiguredAudienceModelAssociation GetConfiguredTable GetConfiguredTableAnalysisRule",
      "GetConfiguredTableAssociation GetConfiguredTableAssociationAnalysisRule",
      "GetIdMappingTable GetIdNamespaceAssociation GetMembership GetPrivacyBudgetTemplate",
      "GetProtectedJob GetProtectedQuery GetSchema GetSchemaAnalysisRule ListAnalysisTemplates",
      "ListCollaborationAnalysisTemplates ListCollaborationChangeRequests",
      "ListCollaborationConfiguredAudienceModelAssociations",
      "ListCollaborationIdNamespaceAssociations ListCollaborationPrivacyBudgetTemplates",
      "ListCollaborationPrivacyBudgets ListCollaborations",
      "ListConfiguredAudienceModelAssociations ListConfiguredTableAssociations",
      "ListConfiguredTables ListIdMappingTables ListIdNamespaceAssociations ListMembers",
      "ListMemberships ListPrivacyBudgetTemplates ListPrivacyBudgets ListProtectedJobs",
      "ListProtectedQueries ListSchemas ListTagsForResource PopulateIdMappingTable",
      "PreviewPrivacyImpact StartProtectedJob StartProtectedQuery TagResource UntagResource",
      "UpdateAnalysisTemplate UpdateCollaboration UpdateCollaborationChangeRequest",
      "UpdateConfiguredAudienceModelAssociation UpdateConfiguredTable",
      "UpdateConfiguredTableAnalysisRule UpdateConfiguredTableAssociation",
      "UpdateConfiguredTableAssociationAnalysisRule UpdateIdMappingTable",
      "UpdateIdNamespaceAssociation UpdateMembership UpdatePrivacyBudgetTemplate",
      "UpdateProtectedJob UpdateProtectedQuery"]),
    ("cleanrooms-ml", [
      "CancelTrainedModel CancelTrainedModelInferenceJob CreateAudienceModel",
      "CreateConfiguredAudienceModel CreateConfiguredModelAlgorithm",
      "CreateConfiguredModelAlgorithmAssociation CreateMLInputChannel CreateTrainedModel",
      "CreateTrainingDataset DeleteAudienceGenerationJob DeleteAudienceModel",
      "DeleteConfiguredAudienceModel DeleteConfiguredAudienceModelPolicy",
      "DeleteConfiguredModelAlgorithm DeleteConfiguredModelAlgorithmAssociation",
      "DeleteMLConfiguration DeleteMLInputChannelData DeleteTrainedModelOutput",
      "DeleteTrainingDataset GetAudienceGenerationJob GetAudienceModel",
      "GetCollaborationConfiguredModelAlgorithmAssociation GetCollaborationMLInputChannel",
      "GetCollaborationTrainedModel GetConfiguredAudienceModel GetConfiguredAudienceModelPolicy",
      "GetConfiguredModelAlgorithm GetConfiguredModelAlgorithmAssociation GetMLConfiguration",
      "GetMLInputChannel GetTrainedModel GetTrainedModelInferenceJob GetTrainingDataset",
      "ListAudienceExportJobs ListAudienceGenerationJobs ListAudienceModels",
      "ListCollaborationConfiguredModelAlgorithmAssociations ListCollaborationMLInputChannels",
      "ListCollaborationTrainedModelExportJobs ListCollaborationTrainedModelInferenceJobs",
      "ListCollaborationTrainedModels ListConfiguredAudienceModels",
      "ListConfiguredModelAlgorithmAssociations ListConfiguredModelAlgorithms",
      "ListMLInputChannels ListTagsForResource ListTrainedModelInferenceJobs",
      "ListTrainedModelVersions ListTrainedModels ListTrainingDatasets",
      "PutConfiguredAudienceModelPolicy PutMLConfiguration StartAudienceExportJob",
      "StartAudienceGenerationJob StartTrainedModelExportJob StartTrainedModelInferenceJob",
      "TagResource UntagResource UpdateConfiguredAudienceModel"]),
    ("cloud9", [
      "CreateEnvironmentEC2 CreateEnvironmentMembership DeleteEnvironment",
      "DeleteEnvironmentMembership DescribeEnvironmentMemberships DescribeEnvironmentStatus",
      "DescribeEnvironments ListEnvironments ListTagsForResource TagResource UntagResource",
      "UpdateEnvironment UpdateEnvironmentMembership"]),
    ("cloudcontrolapi", [
      "CancelResourceRequest CreateResource DeleteResource GetResource GetResourceRequestStatus",
      "ListResourceRequests ListResources UpdateResource"]),
    ("clouddirectory", [
      "AddFacetToObject ApplySchema AttachObject AttachPolicy AttachToIndex AttachTypedLink",
      "BatchRead BatchWrite CreateDirectory CreateFacet CreateIndex CreateObject CreateSchema",
      "CreateTypedLinkFacet DeleteDirectory DeleteFacet DeleteObject DeleteSchema",
      "DeleteTypedLinkFacet DetachFromIndex DetachObject DetachPolicy DetachTypedLink",
      "DisableDirectory EnableDirectory GetAppliedSchemaVersion GetDirectory GetFacet",
      "GetLinkAttributes GetObjectAttributes GetObjectInformation GetSchemaAsJson",
      "GetTypedLinkFacetInformation ListAppliedSchemaArns ListAttachedIndices",
      "ListDevelopmentSchemaArns ListDirectories ListFacetAttributes ListFacetNames",
      "ListIncomingTypedLinks ListIndex ListManagedSchemaArns ListObjectAttributes",
      "ListObjectChildren ListObjectParentPaths ListObjectParents ListObjectPolicies",
      "ListOutgoingTypedLinks ListPolicyAttachments ListPublishedSchemaArns ListTagsForResource",
      "ListTypedLinkFacetAttributes ListTypedLinkFacetNames LookupPolicy PublishSchema",
      "PutSchemaFromJson RemoveFacetFromObject TagResource UntagResource UpdateFacet",
      "UpdateLinkAttributes UpdateObjectAttributes UpdateSchema UpdateTypedLinkFacet",
      "UpgradeAppliedSchema UpgradePublishedSchema"]),
    ("cloudformation", [
      "ActivateOrganizationsAccess ActivateType BatchDescribeTypeConfigurations",
      "CancelUpdateStack ContinueUpdateRollback CreateChangeSet CreateGeneratedTemplate",
      "CreateStack CreateStackInstances CreateStackRefactor CreateStackSet",
      "DeactivateOrganizationsAccess DeactivateType DeleteChangeSet DeleteGeneratedTemplate",
      "DeleteStack DeleteStackInstances DeleteStackSet DeregisterType DescribeAccountLimits",
      "DescribeChangeSet DescribeChangeSetHooks DescribeEvents DescribeGeneratedTemplate",
      "DescribeOrganizationsAccess DescribePublisher DescribeResourceScan",
      "DescribeStackDriftDetectionStatus DescribeStackEvents DescribeStackInstance",
      "DescribeStackRefactor DescribeStackResource DescribeStackResourceDrifts",
      "DescribeStackResources DescribeStackSet DescribeStackSetOperation DescribeStacks",
      "DescribeType DescribeTypeRegistration DetectStackDrift DetectStackResourceDrift",
      "DetectStackSetDrift EstimateTemplateCost ExecuteChangeSet ExecuteStackRefactor",
      "GetGeneratedTemplate GetHookResult GetStackPolicy GetTemplate GetTemplateSummary",
      "ImportStacksToStackSet ListChangeSets ListExports ListGeneratedTemplates ListHookResults",
      "ListImports ListResourceScanRelatedResources ListResourceScanResources ListResourceScans",
      "ListStackInstanceResourceDrifts ListStackInstances ListStackRefactorActions",
      "ListStackRefactors ListStackResources ListStackSetAutoDeploymentTargets",
      "ListStackSetOperationResults ListStackSetOperations ListStackSets ListStacks",
      "ListTypeRegistrations ListTypeVersions ListTypes PublishType RecordHandlerProgress",
      "RegisterPublisher RegisterType RollbackStack SetStackPolicy SetTypeConfiguration",
      "SetTypeDefaultVersion SignalResource StartResourceScan StopStackSetOperation TestType",
      "UpdateGeneratedTemplate UpdateStack UpdateStackInstances UpdateStackSet",
      "UpdateTerminationProtection ValidateTemplate"]),
    ("cloudfront", [
      "AssociateAlias AssociateDistributionTenantWebACL AssociateDistributionWebACL",
      "CopyDistribution CreateAnycastIpList CreateCachePolicy",
      "CreateCloudFrontOriginAccessIdentity CreateConnectionFunction CreateConnectionGroup",
      "CreateContinuousDeploymentPolicy CreateDistribution CreateDistributionTenant",
      "CreateDistributionWithTags CreateFieldLevelEncryptionConfig",
      "CreateFieldLevelEncryptionProfile CreateFunction CreateInvalidation",
      "CreateInvalidationForDistributionTenant CreateKeyGroup CreateKeyValueStore",
      "CreateMonitoringSubscription CreateOriginAccessControl CreateOriginRequestPolicy",
      "CreatePublicKey CreateRealtimeLogConfig CreateResponseHeadersPolicy",
      "CreateStreamingDistribution CreateStreamingDistributionWithTags CreateTrustStore",
      "CreateVpcOrigin DeleteAnycastIpList DeleteCachePolicy",
      "DeleteCloudFrontOriginAccessIdentity DeleteConnectionFunction DeleteConnectionGroup",
      "DeleteContinuousDeploymentPolicy DeleteDistribution DeleteDistributionTenant",
      "DeleteFieldLevelEncryptionConfig DeleteFieldLevelEncryptionProfile DeleteFunction",
      "DeleteKeyGroup DeleteKeyValueStore DeleteMonitoringSubscription",
      "DeleteOriginAccessControl DeleteOriginRequestPolicy DeletePublicKey",
      "DeleteRealtimeLogConfig DeleteResourcePolicy DeleteResponseHeadersPolicy",
      "DeleteStreamingDistribution DeleteTrustStore DeleteVpcOrigin DescribeConnectionFunction",
      "DescribeFunction DescribeKeyValueStore DisassociateDistributionTenantWebACL",
      "DisassociateDistributionWebACL GetAnycastIpList GetCachePolicy GetCachePolicyConfig",
      "GetCloudFrontOriginAccessIdentity GetCloudFrontOriginAccessIdentityConfig",
      "GetConnectionFunction GetConnectionGroup GetConnectionGroupByRoutingEndpoint",
      "GetContinuousDeploymentPolicy GetContinuousDeploymentPolicyConfig GetDistribution",
      "GetDistributionConfig GetDistributionTenant GetDistributionTenantByDomain",
      "GetFieldLevelEncryption GetFieldLevelEncryptionConfig GetFieldLevelEncryptionProfile",
      "GetFieldLevelEncryptionProfileConfig GetFunction GetInvalidation",
      "GetInvalidationForDistributionTenant GetKeyGroup GetKeyGroupConfig",
      "GetManagedCertificateDetails GetMonitoringSubscription GetOriginAccessControl",
      "GetOriginAccessControlConfig GetOriginRequestPolicy GetOriginRequestPolicyConfig",
      "GetPublicKey GetPublicKeyConfig GetRealtimeLogConfig GetResourcePolicy",
      "GetResponseHeadersPolicy GetResponseHeadersPolicyConfig GetStreamingDistribution",
      "GetStreamingDistributionConfig GetTrustStore GetVpcOrigin ListAnycastIpLists",
      "ListCachePolicies ListCloudFrontOriginAccessIdentities ListConflictingAliases",
      "ListConnectionFunctions ListConnectionGroups ListContinuousDeploymentPolicies",
      "ListDistributionTenants ListDistributionTenantsByCustomization ListDistributions",
      "ListDistributionsByAnycastIpListId ListDistributionsByCachePolicyId",
      "ListDistributionsByConnectionFunction ListDistributionsByConnectionMode",
      "ListDistributionsByKeyGroup ListDistributionsByOriginRequestPolicyId",
      "ListDistributionsByOwnedResource ListDistributionsByRealtimeLogConfig",
      "ListDistributionsByResponseHeadersPolicyId ListDistributionsByTrustStore",
      "ListDistributionsByVpcOriginId ListDistributionsByWebACLId ListDomainConflicts",
      "ListFieldLevelEncryptionConfigs ListFieldLevelEncryptionProfiles ListFunctions",
      "ListInvalidations ListInvalidationsForDistributionTenant ListKeyGroups",
      "ListKeyValueStores ListOriginAccessControls ListOriginRequestPolicies ListPublicKeys",
      "ListRealtimeLogConfigs ListResponseHeadersPolicies ListStreamingDistributions",
      "ListTagsForResource ListTrustStores ListVpcOrigins PublishConnectionFunction",
      "PublishFunction PutResourcePolicy TagResource TestConnectionFunction TestFunction",
      "UntagResource UpdateAnycastIpList UpdateCachePolicy UpdateCloudFrontOriginAccessIdentity",
      "UpdateConnectionFunction UpdateConnectionGroup UpdateContinuousDeploymentPolicy",
      "UpdateDistribution UpdateDistributionTenant UpdateDistributionWithStagingConfig",
      "UpdateDomainAssociation UpdateFieldLevelEncryptionConfig",
      "UpdateFieldLevelEncryptionProfile UpdateFunction UpdateKeyGroup UpdateKeyValueStore",
      "UpdateOriginAccessControl UpdateOriginRequestPolicy UpdatePublicKey",
      "UpdateRealtimeLogConfig UpdateResponseHeadersPolicy UpdateStreamingDistribution",
      "UpdateTrustStore UpdateVpcOrigin VerifyDnsConfiguration"]),
    ("cloudfront-keyvaluestore", [
      "DeleteKey DescribeKeyValueStore GetKey ListKeys PutKey UpdateKeys"]),
    ("cloudhsm", [
      "AddTagsToResource CopyBackupToRegion CreateCluster CreateHapg CreateHsm CreateLunaClient",
      "DeleteBackup DeleteCluster DeleteHapg DeleteHsm DeleteLunaClient DeleteResourcePolicy",
      "DescribeBackups DescribeClusters DescribeHapg DescribeHsm DescribeLunaClient GetConfig",
      "GetResourcePolicy InitializeCluster ListAvailableZones ListHapgs ListHsms",
      "ListLunaClients ListTags ListTagsForResource ModifyBackupAttributes ModifyCluster",
      "ModifyHapg ModifyHsm ModifyLunaClient PutResourcePolicy RemoveTagsFromResource",
      "RestoreBackup TagResource UntagResource"]),
    ("cloudsearch", [
      "BuildSuggesters CreateDomain DefineAnalysisScheme DefineExpression DefineIndexField",
      "DefineSuggester DeleteAnalysisScheme DeleteDomain DeleteExpression DeleteIndexField",
      "DeleteSuggester DescribeAnalysisSchemes DescribeAvailabilityOptions",
      "DescribeDomainEndpointOptions DescribeDomains DescribeExpressions DescribeIndexFields",
      "DescribeScalingParameters DescribeServiceAccessPolicies DescribeSuggesters",
      "IndexDocuments ListDomainNames Search Suggest UpdateAvailabilityOptions",
      "UpdateDomainEndpointOptions UpdateScalingParameters UpdateServiceAccessPolicies",
      "UploadDocuments"]),
    ("cloudtrail", [
      "AddTags CancelQuery CreateChannel CreateDashboard CreateEventDataStore CreateTrail",
      "DeleteChannel DeleteDashboard DeleteEventDataStore DeleteResourcePolicy DeleteTrail",
      "DeregisterOrganizationDelegatedAdmin DescribeQuery DescribeTrails DisableFederation",
      "EnableFederation GenerateQuery GetChannel GetDashboard GetEventConfiguration",
      "GetEventDataStore GetEventSelectors GetImport GetInsightSelectors GetQueryResults",
      "GetResourcePolicy GetTrail GetTrailStatus ListChannels ListDashboards",
      "ListEventDataStores ListImportFailures ListImports ListInsightsData",
      "ListInsightsMetricData ListPublicKeys ListQueries ListTags ListTrails LookupEvents",
      "PutEventConfiguration PutEventSelectors PutInsightSelectors PutResourcePolicy",
      "RegisterOrganizationDelegatedAdmin RemoveTags RestoreEventDataStore SearchSampleQueries",
      "StartDashboardRefresh StartEventDataStoreIngestion StartImport StartLogging StartQuery",
      "StopEventDataStoreIngestion StopImport StopLogging UpdateChannel UpdateDashboard",
      "UpdateEventDataStore UpdateTrail"]),
    ("cloudtrail-data", ["PutAuditEvents"]),
    ("cloudwatch", [
      "DeleteAlarmMuteRule DeleteAlarms DeleteAnomalyDetector DeleteDashboards",
      "DeleteInsightRules DeleteMetricStream DescribeAlarmContributors DescribeAlarmHistory",
      "DescribeAlarms DescribeAlarmsForMetric DescribeAnomalyDetectors DescribeInsightRules",
      "DisableAlarmActions DisableInsightRules EnableAlarmActions EnableInsightRules",
      "GetAlarmMuteRule GetDashboard GetInsightRuleReport GetMetricData GetMetricStatistics",
      "GetMetricStream GetMetricWidgetImage GetOTelEnrichment ListAlarmMuteRules ListDashboards",
      "ListManagedInsightRules ListMetricStreams ListMetrics ListTagsForResource",
      "PutAlarmMuteRule PutAnomalyDetector PutCompositeAlarm PutDashboard PutInsightRule",
      "PutManagedInsightRules PutMetricAlarm PutMetricData PutMetricStream SetAlarmState",
      "StartMetricStreams StartOTelEnrichment StopMetricStreams StopOTelEnrichment TagResource",
      "UntagResource"]),
    ("codeartifact", [
      "AssociateExternalConnection CopyPackageVersions CreateDomain CreatePackageGroup",
      "CreateRepository DeleteDomain DeleteDomainPermissionsPolicy DeletePackage",
      "DeletePackageGroup DeletePackageVersions DeleteRepository",
      "DeleteRepositoryPermissionsPolicy DescribeDomain DescribePackage DescribePackageGroup",
      "DescribePackageVersion DescribeRepository DisassociateExternalConnection",
      "DisposePackageVersions GetAssociatedPackageGroup GetAuthorizationToken",
      "GetDomainPermissionsPolicy GetPackageVersionAsset GetPackageVersionReadme",
      "GetRepositoryEndpoint GetRepositoryPermissionsPolicy ListAllowedRepositoriesForGroup",
      "ListAssociatedPackages ListDomains ListPackageGroups ListPackageVersionAssets",
      "ListPackageVersionDependencies ListPackageVersions ListPackages ListRepositories",
      "ListRepositoriesInDomain ListSubPackageGroups ListTagsForResource PublishPackageVersion",
      "PutDomainPermissionsPolicy PutPackageOriginConfiguration PutRepositoryPermissionsPolicy",
      "TagResource UntagResource UpdatePackageGroup UpdatePackageGroupOriginConfiguration",
      "UpdatePackageVersionsStatus UpdateRepository"]),
    ("codebuild", [
      "BatchDeleteBuilds BatchGetBuildBatches BatchGetBuilds BatchGetCommandExecutions",
      "BatchGetFleets BatchGetProjects BatchGetReportGroups BatchGetReports BatchGetSandboxes",
      "CreateFleet CreateProject CreateReportGroup CreateWebhook DeleteBuildBatch DeleteFleet",
      "DeleteProject DeleteReport DeleteReportGroup DeleteResourcePolicy",
      "DeleteSourceCredentials DeleteWebhook DescribeCodeCoverages DescribeTestCases",
      "GetReportGroupTrend GetResourcePolicy ImportSourceCredentials InvalidateProjectCache",
      "ListBuildBatches ListBuildBatchesForProject ListBuilds ListBuildsForProject",
      "ListCommandExecutionsForSandbox ListCuratedEnvironmentImages ListFleets ListProjects",
      "ListReportGroups ListReports ListReportsForReportGroup ListSandboxes",
      "ListSandboxesForProject ListSharedProjects ListSharedReportGroups ListSourceCredentials",
      "PutResourcePolicy RetryBuild RetryBuildBatch StartBuild StartBuildBatch",
      "StartCommandExecution StartSandbox StartSandboxConnection StopBuild StopBuildBatch",
      "StopSandbox UpdateFleet UpdateProject UpdateProjectVisibility UpdateReportGroup",
      "UpdateWebhook"]),
    ("codecatalyst", [
      "CreateAccessToken CreateDevEnvironment CreateProject CreateSourceRepository",
      "CreateSourceRepositoryBranch DeleteAccessToken DeleteDevEnvironment DeleteProject",
      "DeleteSourceRepository DeleteSpace GetDevEnvironment GetProject GetSourceRepository",
      "GetSourceRepositoryCloneUrls GetSpace GetSubscription GetUserDetails GetWorkflow",
      "GetWorkflowRun ListAccessTokens ListDevEnvironmentSessions ListDevEnvironments",
      "ListEventLogs ListProjects ListSourceRepositories ListSourceRepositoryBranches",
      "ListSpaces ListWorkflowRuns ListWorkflows StartDevEnvironment StartDevEnvironmentSession",
      "StartWorkflowRun StopDevEnvironment StopDevEnvironmentSession UpdateDevEnvironment",
      "UpdateProject UpdateSpace VerifySession"]),
    ("codecommit", [
      "AssociateApprovalRuleTemplateWithRepository",
      "BatchAssociateApprovalRuleTemplateWithRepositories BatchDescribeMergeConflicts",
      "BatchDisassociateApprovalRuleTemplateFromRepositories BatchGetCommits",
      "BatchGetRepositories CreateApprovalRuleTemplate CreateBranch CreateCommit",
      "CreatePullRequest CreatePullRequestApprovalRule CreateRepository",
      "CreateUnreferencedMergeCommit DeleteApprovalRuleTemplate DeleteBranch",
      "DeleteCommentContent DeleteFile DeletePullRequestApprovalRule DeleteRepository",
      "DescribeMergeConflicts DescribePullRequestEvents",
      "DisassociateApprovalRuleTemplateFromRepository EvaluatePullRequestApprovalRules",
      "GetApprovalRuleTemplate GetBlob GetBranch GetComment GetCommentReactions",
      "GetCommentsForComparedCommit GetCommentsForPullRequest GetCommit GetDifferences GetFile",
      "GetFolder GetMergeCommit GetMergeConflicts GetMergeOptions GetPullRequest",
      "GetPullRequestApprovalStates GetPullRequestOverrideState GetRepository",
      "GetRepositoryTriggers ListApprovalRuleTemplates",
      "ListAssociatedApprovalRuleTemplatesForRepository ListBranches ListFileCommitHistory",
      "ListPullRequests ListRepositories ListRepositoriesForApprovalRuleTemplate",
      "ListTagsForResource MergeBranchesByFastForward MergeBranchesBySquash",
      "MergeBranchesByThreeWay MergePullRequestByFastForward MergePullRequestBySquash",
      "MergePullRequestByThreeWay OverridePullRequestApprovalRules PostCommentForComparedCommit",
      "PostCommentForPullRequest PostCommentReply PutCommentReaction PutFile",
      "PutRepositoryTriggers TagResource TestRepositoryTriggers UntagResource",
      "UpdateApprovalRuleTemplateContent UpdateApprovalRuleTemplateDescription",
      "UpdateApprovalRuleTemplateName UpdateComment UpdateDefaultBranch",
      "UpdatePullRequestApprovalRuleContent UpdatePullRequestApprovalState",
      "UpdatePullRequestDescription UpdatePullRequestStatus UpdatePullRequestTitle",
      "UpdateRepositoryDescription UpdateRepositoryEncryptionKey UpdateRepositoryName"]),
    ("codeconnections", [
      "CreateConnection CreateHost CreateRepositoryLink CreateSyncConfiguration",
      "DeleteConnection DeleteHost DeleteRepositoryLink DeleteSyncConfiguration GetConnection",
      "GetHost GetRepositoryLink GetRepositorySyncStatus GetResourceSyncStatus",
      "GetSyncBlockerSummary GetSyncConfiguration ListConnections ListHosts ListRepositoryLinks",
      "ListRepositorySyncDefinitions ListSyncConfigurations ListTagsForResource TagResource",
      "UntagResource UpdateHost UpdateRepositoryLink UpdateSyncBlocker UpdateSyncConfiguration"]),
    ("codedeploy", [
      "AddTagsToOnPremisesInstances BatchGetApplicationRevisions BatchGetApplications",
      "BatchGetDeploymentGroups BatchGetDeploymentInstances BatchGetDeploymentTargets",
      "BatchGetDeployments BatchGetOnPremisesInstances ContinueDeployment CreateApplication",
      "CreateDeployment CreateDeploymentConfig CreateDeploymentGroup DeleteApplication",
      "DeleteDeploymentConfig DeleteDeploymentGroup DeleteGitHubAccountToken",
      "DeleteResourcesByExternalId DeregisterOnPremisesInstance GetApplication",
      "GetApplicationRevision GetDeployment GetDeploymentConfig GetDeploymentGroup",
      "GetDeploymentInstance GetDeploymentTarget GetOnPremisesInstance ListApplicationRevisions",
      "ListApplications ListDeploymentConfigs ListDeploymentGroups ListDeploymentInstances",
      "ListDeploymentTargets ListDeployments ListGitHubAccountTokenNames",
      "ListOnPremisesInstances ListTagsForResource PutLifecycleEventHookExecutionStatus",
      "RegisterApplicationRevision RegisterOnPremisesInstance RemoveTagsFromOnPremisesInstances",
      "SkipWaitTimeForInstanceTermination StopDeployment TagResource UntagResource",
      "UpdateApplication UpdateDeploymentGroup"]),
    ("codeguru-profiler", [
      "AddNotificationChannels BatchGetFrameMetricData ConfigureAgent CreateProfilingGroup",
      "DeleteProfilingGroup DescribeProfilingGroup GetFindingsReportAccountSummary",
      "GetNotificationConfiguration GetPolicy GetProfile GetRecommendations ListFindingsReports",
      "ListProfileTimes ListProfilingGroups ListTagsForResource PostAgentProfile PutPermission",
      "RemoveNotificationChannel RemovePermission SubmitFeedback TagResource UntagResource",
      "UpdateProfilingGroup"]),
    ("codeguru-reviewer", [
      "AssociateRepository CreateCodeReview DescribeCodeReview DescribeRecommendationFeedback",
      "DescribeRepositoryAssociation DisassociateRepository ListCodeReviews",
      "ListRecommendationFeedback ListRecommendations ListRepositoryAssociations",
      "ListTagsForResource PutRecommendationFeedback TagResource UntagResource"]),
    ("codeguru-security", [
      "BatchGetFindings CreateScan CreateUploadUrl GetAccountConfiguration GetFindings",
      "GetMetricsSummary GetScan ListFindingsMetrics ListScans ListTagsForResource TagResource",
      "UntagResource UpdateAccountConfiguration"]),
    ("codepipeline", [
      "AcknowledgeJob AcknowledgeThirdPartyJob CreateCustomActionType CreatePipeline",
      "DeleteCustomActionType DeletePipeline DeleteWebhook DeregisterWebhookWithThirdParty",
      "DisableStageTransition EnableStageTransition GetActionType GetJobDetails GetPipeline",
      "GetPipelineExecution GetPipelineState GetThirdPartyJobDetails ListActionExecutions",
      "ListActionTypes ListDeployActionExecutionTargets ListPipelineExecutions ListPipelines",
      "ListRuleExecutions ListRuleTypes ListTagsForResource ListWebhooks OverrideStageCondition",
      "PollForJobs PollForThirdPartyJobs PutActionRevision PutApprovalResult",
      "PutJobFailureResult PutJobSuccessResult PutThirdPartyJobFailureResult",
      "PutThirdPartyJobSuccessResult PutWebhook RegisterWebhookWithThirdParty",
      "RetryStageExecution RollbackStage StartPipelineExecution StopPipelineExecution",
      "TagResource UntagResource UpdateActionType UpdatePipeline"]),
    ("codestar-connections", [
      "CreateConnection CreateHost CreateRepositoryLink CreateSyncConfiguration",
      "DeleteConnection DeleteHost DeleteRepositoryLink DeleteSyncConfiguration GetConnection",
      "GetHost GetRepositoryLink GetRepositorySyncStatus GetResourceSyncStatus",
      "GetSyncBlockerSummary GetSyncConfiguration ListConnections ListHosts ListRepositoryLinks",
      "ListRepositorySyncDefinitions ListSyncConfigurations ListTagsForResource TagResource",
      "UntagResource UpdateHost UpdateRepositoryLink UpdateSyncBlocker UpdateSyncConfiguration"]),
    ("codestar-notifications", [
      "CreateNotificationRule DeleteNotificationRule DeleteTarget DescribeNotificationRule",
      "ListEventTypes ListNotificationRules ListTagsForResource ListTargets Subscribe",
      "TagResource Unsubscribe UntagResource UpdateNotificationRule"]),
    ("cognito-identity", [
      "CreateIdentityPool DeleteIdentities DeleteIdentityPool DescribeIdentity",
      "DescribeIdentityPool GetCredentialsForIdentity GetId GetIdentityPoolRoles GetOpenIdToken",
      "GetOpenIdTokenForDeveloperIdentity GetPrincipalTagAttributeMap ListIdentities",
      "ListIdentityPools ListTagsForResource LookupDeveloperIdentity MergeDeveloperIdentities",
      "SetIdentityPoolRoles SetPrincipalTagAttributeMap TagResource UnlinkDeveloperIdentity",
      "UnlinkIdentity UntagResource UpdateIdentityPool"]),
    ("cognito-idp", [
      "AddCustomAttributes AddUserPoolClientSecret AdminAddUserToGroup AdminConfirmSignUp",
      "AdminCreateUser AdminDeleteUser AdminDeleteUserAttributes AdminDisableProviderForUser",
      "AdminDisableUser AdminEnableUser AdminForgetDevice AdminGetDevice AdminGetUser",
      "AdminInitiateAuth AdminLinkProviderForUser AdminListDevices AdminListGroupsForUser",
      "AdminListUserAuthEvents AdminRemoveUserFromGroup AdminResetUserPassword",
      "AdminRespondToAuthChallenge AdminSetUserMFAPreference AdminSetUserPassword",
      "AdminSetUserSettings AdminUpdateAuthEventFeedback AdminUpdateDeviceStatus",
      "AdminUpdateUserAttributes AdminUserGlobalSignOut AssociateSoftwareToken ChangePassword",
      "CompleteWebAuthnRegistration ConfirmDevice ConfirmForgotPassword ConfirmSignUp",
      "CreateGroup CreateIdentityProvider CreateManagedLoginBranding CreateResourceServer",
      "CreateTerms CreateUserImportJob CreateUserPool CreateUserPoolClient CreateUserPoolDomain",
      "DeleteGroup DeleteIdentityProvider DeleteManagedLoginBranding DeleteResourceServer",
      "DeleteTerms DeleteUser DeleteUserAttributes DeleteUserPool DeleteUserPoolClient",
      "DeleteUserPoolClientSecret DeleteUserPoolDomain DeleteWebAuthnCredential",
      "DescribeIdentityProvider DescribeManagedLoginBranding",
      "DescribeManagedLoginBrandingByClient DescribeResourceServer DescribeRiskConfiguration",
      "DescribeTerms DescribeUserImportJob DescribeUserPool DescribeUserPoolClient",
      "DescribeUserPoolDomain ForgetDevice ForgotPassword GetCSVHeader GetDevice GetGroup",
      "GetIdentityProviderByIdentifier GetLogDeliveryConfiguration GetSigningCertificate",
      "GetTokensFromRefreshToken GetUICustomization GetUser GetUserAttributeVerificationCode",
      "GetUserAuthFactors GetUserPoolMfaConfig GlobalSignOut InitiateAuth ListDevices",
      "ListGroups ListIdentityProviders ListResourceServers ListTagsForResource ListTerms",
      "ListUserImportJobs ListUserPoolClientSecrets ListUserPoolClients ListUserPools ListUsers",
      "ListUsersInGroup ListWebAuthnCredentials ResendConfirmationCode RespondToAuthChallenge",
      "RevokeToken SetLogDeliveryConfiguration SetRiskConfiguration SetUICustomization",
      "SetUserMFAPreference SetUserPoolMfaConfig SetUserSettings SignUp StartUserImportJob",
      "StartWebAuthnRegistration StopUserImportJob TagResource UntagResource",
      "UpdateAuthEventFeedback UpdateDeviceStatus UpdateGroup UpdateIdentityProvider",
      "UpdateManagedLoginBranding UpdateResourceServer UpdateTerms UpdateUserAttributes",
      "UpdateUserPool UpdateUserPoolClient UpdateUserPoolDomain VerifySoftwareToken",
      "VerifyUserAttribute"]),
    ("cognito-sync", [
      "BulkPublish DeleteDataset DescribeDataset DescribeIdentityPoolUsage",
      "DescribeIdentityUsage GetBulkPublishDetails GetCognitoEvents",
      "GetIdentityPoolConfiguration ListDatasets ListIdentityPoolUsage ListRecords",
      "RegisterDevice SetCognitoEvents SetIdentityPoolConfiguration SubscribeToDataset",
      "UnsubscribeFromDataset UpdateRecords"]),
    ("comprehend", [
      "BatchDetectDominantLanguage BatchDetectEntities BatchDetectKeyPhrases",
      "BatchDetectSentiment BatchDetectSyntax BatchDetectTargetedSentiment ClassifyDocument",
      "ContainsPiiEntities CreateDataset CreateDocumentClassifier CreateEndpoint",
      "CreateEntityRecognizer CreateFlywheel DeleteDocumentClassifier DeleteEndpoint",
      "DeleteEntityRecognizer DeleteFlywheel DeleteResourcePolicy DescribeDataset",
      "DescribeDocumentClassificationJob DescribeDocumentClassifier",
      "DescribeDominantLanguageDetectionJob DescribeEndpoint DescribeEntitiesDetectionJob",
      "DescribeEntityRecognizer DescribeEventsDetectionJob DescribeFlywheel",
      "DescribeFlywheelIteration DescribeKeyPhrasesDetectionJob DescribePiiEntitiesDetectionJob",
      "DescribeResourcePolicy DescribeSentimentDetectionJob",
      "DescribeTargetedSentimentDetectionJob DescribeTopicsDetectionJob DetectDominantLanguage",
      "DetectEntities DetectKeyPhrases DetectPiiEntities DetectSentiment DetectSyntax",
      "DetectTargetedSentiment DetectToxicContent ImportModel ListDatasets",
      "ListDocumentClassificationJobs ListDocumentClassifierSummaries ListDocumentClassifiers",
      "ListDominantLanguageDetectionJobs ListEndpoints ListEntitiesDetectionJobs",
      "ListEntityRecognizerSummaries ListEntityRecognizers ListEventsDetectionJobs",
      "ListFlywheelIterationHistory ListFlywheels ListKeyPhrasesDetectionJobs",
      "ListPiiEntitiesDetectionJobs ListSentimentDetectionJobs ListTagsForResource",
      "ListTargetedSentimentDetectionJobs ListTopicsDetectionJobs PutResourcePolicy",
      "StartDocumentClassificationJob StartDominantLanguageDetectionJob",
      "StartEntitiesDetectionJob StartEventsDetectionJob StartFlywheelIteration",
      "StartKeyPhrasesDetectionJob StartPiiEntitiesDetectionJob StartSentimentDetectionJob",
      "StartTargetedSentimentDetectionJob StartTopicsDetectionJob",
      "StopDominantLanguageDetectionJob StopEntitiesDetectionJob StopEventsDetectionJob",
      "StopKeyPhrasesDetectionJob StopPiiEntitiesDetectionJob StopSentimentDetectionJob",
      "StopTargetedSentimentDetectionJob StopTrainingDocumentClassifier",
      "StopTrainingEntityRecognizer TagResource UntagResource UpdateEndpoint UpdateFlywheel"]),
    ("comprehendmedical", [
      "DescribeEntitiesDetectionV2Job DescribeICD10CMInferenceJob DescribePHIDetectionJob",
      "DescribeRxNormInferenceJob DescribeSNOMEDCTInferenceJob DetectEntities DetectEntitiesV2",
      "DetectPHI InferICD10CM InferRxNorm InferSNOMEDCT ListEntitiesDetectionV2Jobs",
      "ListICD10CMInferenceJobs ListPHIDetectionJobs ListRxNormInferenceJobs",
      "ListSNOMEDCTInferenceJobs StartEntitiesDetectionV2Job StartICD10CMInferenceJob",
      "StartPHIDetectionJob StartRxNormInferenceJob StartSNOMEDCTInferenceJob",
      "StopEntitiesDetectionV2Job StopICD10CMInferenceJob StopPHIDetectionJob",
      "StopRxNormInferenceJob StopSNOMEDCTInferenceJob"]),
    ("compute-optimizer", [
      "DeleteRecommendationPreferences DescribeRecommendationExportJobs",
      "ExportAutoScalingGroupRecommendations ExportEBSVolumeRecommendations",
      "ExportEC2InstanceRecommendations ExportECSServiceRecommendations",
      "ExportIdleRecommendations ExportLambdaFunctionRecommendations",
      "ExportLicenseRecommendations ExportRDSDatabaseRecommendations",
      "GetAutoScalingGroupRecommendations GetEBSVolumeRecommendations",
      "GetEC2InstanceRecommendations GetEC2RecommendationProjectedMetrics",
      "GetECSServiceRecommendationProjectedMetrics GetECSServiceRecommendations",
      "GetEffectiveRecommendationPreferences GetEnrollmentStatus",
      "GetEnrollmentStatusesForOrganization GetIdleRecommendations",
      "GetLambdaFunctionRecommendations GetLicenseRecommendations",
      "GetRDSDatabaseRecommendationProjectedMetrics GetRDSDatabaseRecommendations",
      "GetRecommendationPreferences GetRecommendationSummaries PutRecommendationPreferences",
      "UpdateEnrollmentStatus"]),
    ("config", [
      "AssociateResourceTypes BatchGetAggregateResourceConfig BatchGetResourceConfig",
      "DeleteAggregationAuthorization DeleteConfigRule DeleteConfigurationAggregator",
      "DeleteConfigurationRecorder DeleteConformancePack DeleteDeliveryChannel",
      "DeleteEvaluationResults DeleteOrganizationConfigRule DeleteOrganizationConformancePack",
      "DeletePendingAggregationRequest DeleteRemediationConfiguration",
      "DeleteRemediationExceptions DeleteResourceConfig DeleteRetentionConfiguration",
      "DeleteServiceLinkedConfigurationRecorder DeleteStoredQuery DeliverConfigSnapshot",
      "DescribeAggregateComplianceByConfigRules DescribeAggregateComplianceByConformancePacks",
      "DescribeAggregationAuthorizations DescribeComplianceByConfigRule",
      "DescribeComplianceByResource DescribeConfigRuleEvaluationStatus DescribeConfigRules",
      "DescribeConfigurationAggregatorSourcesStatus DescribeConfigurationAggregators",
      "DescribeConfigurationRecorderStatus DescribeConfigurationRecorders",
      "DescribeConformancePackCompliance DescribeConformancePackStatus DescribeConformancePacks",
      "DescribeDeliveryChannelStatus DescribeDeliveryChannels",
      "DescribeOrganizationConfigRuleStatuses DescribeOrganizationConfigRules",
      "DescribeOrganizationConformancePackStatuses DescribeOrganizationConformancePacks",
      "DescribePendingAggregationRequests DescribeRemediationConfigurations",
      "DescribeRemediationExceptions DescribeRemediationExecutionStatus",
      "DescribeRetentionConfigurations DisassociateResourceTypes",
      "GetAggregateComplianceDetailsByConfigRule GetAggregateConfigRuleComplianceSummary",
      "GetAggregateConformancePackComplianceSummary GetAggregateDiscoveredResourceCounts",
      "GetAggregateResourceConfig GetComplianceDetailsByConfigRule",
      "GetComplianceDetailsByResource GetComplianceSummaryByConfigRule",
      "GetComplianceSummaryByResourceType GetConformancePackComplianceDetails",
      "GetConformancePackComplianceSummary GetCustomRulePolicy GetDiscoveredResourceCounts",
      "GetOrganizationConfigRuleDetailedStatus GetOrganizationConformancePackDetailedStatus",
      "GetOrganizationCustomRulePolicy GetResourceConfigHistory GetResourceEvaluationSummary",
      "GetStoredQuery ListAggregateDiscoveredResources ListConfigurationRecorders",
      "ListConformancePackComplianceScores ListDiscoveredResources ListResourceEvaluations",
      "ListStoredQueries ListTagsForResource PutAggregationAuthorization PutConfigRule",
      "PutConfigurationAggregator PutConfigurationRecorder PutConformancePack",
      "PutDeliveryChannel PutEvaluations PutExternalEvaluation PutOrganizationConfigRule",
      "PutOrganizationConformancePack PutRemediationConfigurations PutRemediationExceptions",
      "PutResourceConfig PutRetentionConfiguration PutServiceLinkedConfigurationRecorder",
      "PutStoredQuery SelectAggregateResourceConfig SelectResourceConfig",
      "StartConfigRulesEvaluation StartConfigurationRecorder StartRemediationExecution",
      "StartResourceEvaluation StopConfigurationRecorder TagResource UntagResource"]),
    ("connect", [
      "ActivateEvaluationForm AssociateAnalyticsDataSet AssociateApprovedOrigin AssociateBot",
      "AssociateContactWithUser AssociateDefaultVocabulary AssociateEmailAddressAlias",
      "AssociateFlow AssociateHoursOfOperations AssociateInstanceStorageConfig",
      "AssociateLambdaFunction AssociateLexBot AssociatePhoneNumberContactFlow",
      "AssociateQueueEmailAddresses AssociateQueueQuickConnects AssociateRoutingProfileQueues",
      "AssociateSecurityKey AssociateSecurityProfiles AssociateTrafficDistributionGroupUser",
      "AssociateUserProficiencies AssociateWorkspace BatchAssociateAnalyticsDataSet",
      "BatchCreateDataTableValue BatchDeleteDataTableValue BatchDescribeDataTableValue",
      "BatchDisassociateAnalyticsDataSet BatchGetAttachedFileMetadata BatchGetFlowAssociation",
      "BatchPutContact BatchUpdateDataTableValue ClaimPhoneNumber CompleteAttachedFileUpload",
      "CreateAgentStatus CreateContact CreateContactFlow CreateContactFlowModule",
      "CreateContactFlowModuleAlias CreateContactFlowModuleVersion CreateContactFlowVersion",
      "CreateDataTable CreateDataTableAttribute CreateEmailAddress CreateEvaluationForm",
      "CreateHoursOfOperation CreateHoursOfOperationOverride CreateInstance",
      "CreateIntegrationAssociation CreateNotification CreateParticipant",
      "CreatePersistentContactAssociation CreatePredefinedAttribute CreatePrompt",
      "CreatePushNotificationRegistration CreateQueue CreateQuickConnect CreateRoutingProfile",
      "CreateRule CreateSecurityProfile CreateTaskTemplate CreateTestCase",
      "CreateTrafficDistributionGroup CreateUseCase CreateUser CreateUserHierarchyGroup",
      "CreateView CreateViewVersion CreateVocabulary CreateWorkspace CreateWorkspacePage",
      "DeactivateEvaluationForm DeleteAttachedFile DeleteContactEvaluation DeleteContactFlow",
      "DeleteContactFlowModule DeleteContactFlowModuleAlias DeleteContactFlowModuleVersion",
      "DeleteContactFlowVersion DeleteDataTable DeleteDataTableAttribute DeleteEmailAddress",
      "DeleteEvaluationForm DeleteHoursOfOperation DeleteHoursOfOperationOverride",
      "DeleteInstance DeleteIntegrationAssociation DeleteNotification DeletePredefinedAttribute",
      "DeletePrompt DeletePushNotificationRegistration DeleteQueue DeleteQuickConnect",
      "DeleteRoutingProfile DeleteRule DeleteSecurityProfile DeleteTaskTemplate DeleteTestCase",
      "DeleteTrafficDistributionGroup DeleteUseCase DeleteUser DeleteUserHierarchyGroup",
      "DeleteView DeleteViewVersion DeleteVocabulary DeleteWorkspace DeleteWorkspaceMedia",
      "DeleteWorkspacePage DescribeAgentStatus DescribeAttachedFilesConfiguration",
      "DescribeAuthenticationProfile DescribeContact DescribeContactEvaluation",
      "DescribeContactFlow DescribeContactFlowModule DescribeContactFlowModuleAlias",
      "DescribeDataTable DescribeDataTableAttribute DescribeEmailAddress DescribeEvaluationForm",
      "DescribeHoursOfOperation DescribeHoursOfOperationOverride DescribeInstance",
      "DescribeInstanceAttribute DescribeInstanceStorageConfig DescribeNotification",
      "DescribePhoneNumber DescribePredefinedAttribute DescribePrompt DescribeQueue",
      "DescribeQuickConnect DescribeRoutingProfile DescribeRule DescribeSecurityProfile",
      "DescribeTestCase DescribeTrafficDistributionGroup DescribeUser",
      "DescribeUserHierarchyGroup DescribeUserHierarchyStructure DescribeView",
      "DescribeVocabulary DescribeWorkspace DisassociateAnalyticsDataSet",
      "DisassociateApprovedOrigin DisassociateBot DisassociateEmailAddressAlias",
      "DisassociateFlow DisassociateHoursOfOperations DisassociateInstanceStorageConfig",
      "DisassociateLambdaFunction DisassociateLexBot DisassociatePhoneNumberContactFlow",
      "DisassociateQueueEmailAddresses DisassociateQueueQuickConnects",
      "DisassociateRoutingProfileQueues DisassociateSecurityKey DisassociateSecurityProfiles",
      "DisassociateTrafficDistributionGroupUser DisassociateUserProficiencies",
      "DisassociateWorkspace DismissUserContact EvaluateDataTableValues GetAttachedFile",
      "GetContactAttributes GetContactMetrics GetCurrentMetricData GetCurrentUserData",
      "GetEffectiveHoursOfOperations GetFederationToken GetFlowAssociation GetMetricData",
      "GetMetricDataV2 GetPromptFile GetTaskTemplate GetTestCaseExecutionSummary",
      "GetTrafficDistribution ImportPhoneNumber ImportWorkspaceMedia ListAgentStatuses",
      "ListAnalyticsDataAssociations ListAnalyticsDataLakeDataSets ListApprovedOrigins",
      "ListAssociatedContacts ListAttachedFilesConfigurations ListAuthenticationProfiles",
      "ListBots ListChildHoursOfOperations ListContactEvaluations ListContactFlowModuleAliases",
      "ListContactFlowModuleVersions ListContactFlowModules ListContactFlowVersions",
      "ListContactFlows ListContactReferences ListDataTableAttributes",
      "ListDataTablePrimaryValues ListDataTableValues ListDataTables ListDefaultVocabularies",
      "ListEntitySecurityProfiles ListEvaluationFormVersions ListEvaluationForms",
      "ListFlowAssociations ListHoursOfOperationOverrides ListHoursOfOperations",
      "ListInstanceAttributes ListInstanceStorageConfigs ListInstances",
      "ListIntegrationAssociations ListLambdaFunctions ListLexBots ListNotifications",
      "ListPhoneNumbers ListPhoneNumbersV2 ListPredefinedAttributes ListPrompts",
      "ListQueueEmailAddresses ListQueueQuickConnects ListQueues ListQuickConnects",
      "ListRealtimeContactAnalysisSegments ListRealtimeContactAnalysisSegmentsV2",
      "ListRoutingProfileManualAssignmentQueues ListRoutingProfileQueues ListRoutingProfiles",
      "ListRules ListSecurityKeys ListSecurityProfileApplications",
      "ListSecurityProfileFlowModules ListSecurityProfilePermissions ListSecurityProfiles",
      "ListTagsForResource ListTaskTemplates ListTestCaseExecutionRecords",
      "ListTestCaseExecutions ListTestCases ListTrafficDistributionGroupUsers",
      "ListTrafficDistributionGroups ListUseCases ListUserHierarchyGroups ListUserNotifications",
      "ListUserProficiencies ListUsers ListViewVersions ListViews ListWorkspaceMedia",
      "ListWorkspacePages ListWorkspaces MonitorContact PauseContact PutUserStatus",
      "ReleasePhoneNumber ReplicateInstance ResumeContact ResumeContactRecording",
      "SearchAgentStatuses SearchAvailablePhoneNumbers SearchContactEvaluations",
      "SearchContactFlowModules SearchContactFlows SearchContacts SearchDataTables",
      "SearchEmailAddresses SearchEvaluationForms SearchHoursOfOperationOverrides",
      "SearchHoursOfOperations SearchNotifications SearchPredefinedAttributes SearchPrompts",
      "SearchQueues SearchQuickConnects SearchResourceTags SearchRoutingProfiles",
      "SearchSecurityProfiles SearchTestCases SearchUserHierarchyGroups SearchUsers SearchViews",
      "SearchVocabularies SearchWorkspaceAssociations SearchWorkspaces SendChatIntegrationEvent",
      "SendOutboundEmail StartAttachedFileUpload StartChatContact StartContactEvaluation",
      "StartContactMediaProcessing StartContactRecording StartContactStreaming",
      "StartEmailContact StartOutboundChatContact StartOutboundEmailContact",
      "StartOutboundVoiceContact StartScreenSharing StartTaskContact StartTestCaseExecution",
      "StartWebRTCContact StopContact StopContactMediaProcessing StopContactRecording",
      "StopContactStreaming StopTestCaseExecution SubmitContactEvaluation",
      "SuspendContactRecording TagContact TagResource TransferContact UntagContact",
      "UntagResource UpdateAgentStatus UpdateAttachedFilesConfiguration",
      "UpdateAuthenticationProfile UpdateContact UpdateContactAttributes",
      "UpdateContactEvaluation UpdateContactFlowContent UpdateContactFlowMetadata",
      "UpdateContactFlowModuleAlias UpdateContactFlowModuleContent",
      "UpdateContactFlowModuleMetadata UpdateContactFlowName UpdateContactRoutingData",
      "UpdateContactSchedule UpdateDataTableAttribute UpdateDataTableMetadata",
      "UpdateDataTablePrimaryValues UpdateEmailAddressMetadata UpdateEvaluationForm",
      "UpdateHoursOfOperation UpdateHoursOfOperationOverride UpdateInstanceAttribute",
      "UpdateInstanceStorageConfig UpdateNotificationContent UpdateParticipantAuthentication",
      "UpdateParticipantRoleConfig UpdatePhoneNumber UpdatePhoneNumberMetadata",
      "UpdatePredefinedAttribute UpdatePrompt UpdateQueueHoursOfOperation",
      "UpdateQueueMaxContacts UpdateQueueName UpdateQueueOutboundCallerConfig",
      "UpdateQueueOutboundEmailConfig UpdateQueueStatus UpdateQuickConnectConfig",
      "UpdateQuickConnectName UpdateRoutingProfileAgentAvailabilityTimer",
      "UpdateRoutingProfileConcurrency UpdateRoutingProfileDefaultOutboundQueue",
      "UpdateRoutingProfileName UpdateRoutingProfileQueues UpdateRule UpdateSecurityProfile",
      "UpdateTaskTemplate UpdateTestCase UpdateTrafficDistribution UpdateUserConfig",
      "UpdateUserHierarchy UpdateUserHierarchyGroupName UpdateUserHierarchyStructure",
      "UpdateUserIdentityInfo UpdateUserNotificationStatus UpdateUserPhoneConfig",
      "UpdateUserProficiencies UpdateUserRoutingProfile UpdateUserSecurityProfiles",
      "UpdateViewContent UpdateViewMetadata UpdateWorkspaceMetadata UpdateWorkspacePage",
      "UpdateWorkspaceTheme UpdateWorkspaceVisibility"]),
    ("connect-campaigns", [
      "CreateCampaign DeleteCampaign DeleteCampaignChannelSubtypeConfig",
      "DeleteCampaignCommunicationLimits DeleteCampaignCommunicationTime",
      "DeleteCampaignEntryLimits DeleteConnectInstanceConfig DeleteConnectInstanceIntegration",
      "DeleteInstanceOnboardingJob DescribeCampaign GetCampaignState GetCampaignStateBatch",
      "GetConnectInstanceConfig GetInstanceCommunicationLimits GetInstanceOnboardingJobStatus",
      "ListCampaigns ListConnectInstanceIntegrations ListTagsForResource PauseCampaign",
      "PutConnectInstanceIntegration PutDialRequestBatch PutInstanceCommunicationLimits",
      "PutOutboundRequestBatch PutProfileOutboundRequestBatch ResumeCampaign StartCampaign",
      "StartInstanceOnboardingJob StopCampaign TagResource UntagResource",
      "UpdateCampaignChannelSubtypeConfig UpdateCampaignCommunicationLimits",
      "UpdateCampaignCommunicationTime UpdateCampaignDialerConfig UpdateCampaignEntryLimits",
      "UpdateCampaignFlowAssociation UpdateCampaignName UpdateCampaignOutboundCallConfig",
      "UpdateCampaignSchedule UpdateCampaignSource"]),
    ("controlcatalog", [
      "GetControl ListCommonControls ListControlMappings ListControls ListDomains",
      "ListObjectives"]),
    ("controltower", [
      "CreateLandingZone DeleteLandingZone DisableBaseline DisableControl EnableBaseline",
      "EnableControl GetBaseline GetBaselineOperation GetControlOperation GetEnabledBaseline",
      "GetEnabledControl GetLandingZone GetLandingZoneOperation ListBaselines",
      "ListControlOperations ListEnabledBaselines ListEnabledControls ListLandingZoneOperations",
      "ListLandingZones ListTagsForResource ResetEnabledBaseline ResetEnabledControl",
      "ResetLandingZone TagResource UntagResource UpdateEnabledBaseline UpdateEnabledControl",
      "UpdateLandingZone"]),
    ("cost-optimization-hub", [
      "GetPreferences GetRecommendation ListEfficiencyMetrics ListEnrollmentStatuses",
      "ListRecommendationSummaries ListRecommendations UpdateEnrollmentStatus UpdatePreferences"]),
    ("cur", [
      "DeleteReportDefinition DescribeReportDefinitions ListTagsForResource",
      "ModifyReportDefinition PutReportDefinition TagResource UntagResource"])]

end StackAudit.Catalog
