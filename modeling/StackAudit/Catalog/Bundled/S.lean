/-!
# Actions of services: S

The privileges of the services whose names begin with `s`.
-/

namespace StackAudit.Catalog

/-- The services with `s`, each with lines of privileges between blanks. -/
def servicesS : List (String × List String) :=
  [("s3", [
      "AbortMultipartUpload AssociateAccessGrantsIdentityCenter BypassGovernanceRetention",
      "CompleteMultipartUpload CopyObject CreateAccessGrant CreateAccessGrantsInstance",
      "CreateAccessGrantsLocation CreateAccessPoint CreateAccessPointForObjectLambda",
      "CreateBucket CreateBucketMetadataConfiguration CreateBucketMetadataTableConfiguration",
      "CreateJob CreateMultiRegionAccessPoint CreateMultipartUpload CreateSession",
      "CreateStorageLensGroup DeleteAccessGrant DeleteAccessGrantsInstance",
      "DeleteAccessGrantsInstanceResourcePolicy DeleteAccessGrantsLocation DeleteAccessPoint",
      "DeleteAccessPointForObjectLambda DeleteAccessPointPolicy",
      "DeleteAccessPointPolicyForObjectLambda DeleteAccessPointScope DeleteBucket",
      "DeleteBucketAnalyticsConfiguration DeleteBucketCors DeleteBucketEncryption",
      "DeleteBucketIntelligentTieringConfiguration DeleteBucketInventoryConfiguration",
      "DeleteBucketLifecycle DeleteBucketLifecycleConfiguration",
      "DeleteBucketMetadataConfiguration DeleteBucketMetadataTableConfiguration",
      "DeleteBucketMetricsConfiguration DeleteBucketOwnershipControls DeleteBucketPolicy",
      "DeleteBucketReplication DeleteBucketTagging DeleteBucketWebsite DeleteJobTagging",
      "DeleteMultiRegionAccessPoint DeleteObject DeleteObjectTagging DeleteObjectVersion",
      "DeleteObjectVersionTagging DeleteObjects DeletePublicAccessBlock",
      "DeleteStorageLensConfiguration DeleteStorageLensConfigurationTagging",
      "DeleteStorageLensGroup DescribeJob DescribeMultiRegionAccessPointOperation",
      "DissociateAccessGrantsIdentityCenter GetAccessGrant GetAccessGrantsInstance",
      "GetAccessGrantsInstanceForPrefix GetAccessGrantsInstanceResourcePolicy",
      "GetAccessGrantsLocation GetAccessPoint GetAccessPointConfigurationForObjectLambda",
      "GetAccessPointForObjectLambda GetAccessPointPolicy GetAccessPointPolicyForObjectLambda",
      "GetAccessPointPolicyStatus GetAccessPointPolicyStatusForObjectLambda GetAccessPointScope",
      "GetBucket GetBucketAbac GetBucketAccelerateConfiguration GetBucketAcl",
      "GetBucketAnalyticsConfiguration GetBucketCors GetBucketEncryption",
      "GetBucketIntelligentTieringConfiguration GetBucketInventoryConfiguration",
      "GetBucketLifecycle GetBucketLifecycleConfiguration GetBucketLocation GetBucketLogging",
      "GetBucketMetadataConfiguration GetBucketMetadataTableConfiguration",
      "GetBucketMetricsConfiguration GetBucketNotification GetBucketNotificationConfiguration",
      "GetBucketOwnershipControls GetBucketPolicy GetBucketPolicyStatus GetBucketReplication",
      "GetBucketRequestPayment GetBucketTagging GetBucketVersioning GetBucketWebsite",
      "GetDataAccess GetJobTagging GetMultiRegionAccessPoint GetMultiRegionAccessPointPolicy",
      "GetMultiRegionAccessPointPolicyStatus GetMultiRegionAccessPointRoutes GetObject",
      "GetObjectAcl GetObjectAttributes GetObjectLegalHold GetObjectLockConfiguration",
      "GetObjectRetention GetObjectTagging GetObjectTorrent GetObjectVersion",
      "GetObjectVersionAcl GetObjectVersionTagging GetPublicAccessBlock",
      "GetStorageLensConfiguration GetStorageLensConfigurationTagging GetStorageLensGroup",
      "HeadBucket HeadObject ListAccessGrants ListAccessGrantsInstances",
      "ListAccessGrantsLocations ListAccessPoints ListAccessPointsForDirectoryBuckets",
      "ListAccessPointsForObjectLambda ListAllMyBuckets ListBucket",
      "ListBucketAnalyticsConfigurations ListBucketIntelligentTieringConfigurations",
      "ListBucketInventoryConfigurations ListBucketMetricsConfigurations",
      "ListBucketMultipartUploads ListBucketVersions ListBuckets ListCallerAccessGrants",
      "ListDirectoryBuckets ListJobs ListMultiRegionAccessPoints ListMultipartUploadParts",
      "ListMultipartUploads ListObjectVersions ListObjects ListObjectsV2 ListParts",
      "ListRegionalBuckets ListStorageLensConfigurations ListStorageLensGroups",
      "ListTagsForResource PutAccessGrantsInstanceResourcePolicy",
      "PutAccessPointConfigurationForObjectLambda PutAccessPointPolicy",
      "PutAccessPointPolicyForObjectLambda PutAccessPointScope PutBucketAbac",
      "PutBucketAccelerateConfiguration PutBucketAcl PutBucketAnalyticsConfiguration",
      "PutBucketCors PutBucketEncryption PutBucketIntelligentTieringConfiguration",
      "PutBucketInventoryConfiguration PutBucketLifecycle PutBucketLifecycleConfiguration",
      "PutBucketLogging PutBucketMetricsConfiguration PutBucketNotification",
      "PutBucketNotificationConfiguration PutBucketOwnershipControls PutBucketPolicy",
      "PutBucketPublicAccessBlock PutBucketReplication PutBucketRequestPayment PutBucketTagging",
      "PutBucketVersioning PutBucketWebsite PutEncryptionConfiguration PutJobTagging",
      "PutMultiRegionAccessPointPolicy PutObject PutObjectAcl PutObjectLegalHold",
      "PutObjectLockConfiguration PutObjectRetention PutObjectTagging PutObjectVersionAcl",
      "PutObjectVersionTagging PutPublicAccessBlock PutStorageLensConfiguration",
      "PutStorageLensConfigurationTagging RenameObject ReplicateObject RestoreObject",
      "SelectObjectContent SubmitMultiRegionAccessPointRoutes TagResource UntagResource",
      "UpdateAccessGrantsLocation UpdateBucketMetadataInventoryTableConfiguration",
      "UpdateBucketMetadataJournalTableConfiguration UpdateJobPriority UpdateJobStatus",
      "UpdateObjectEncryption UpdateStorageLensGroup UploadPart UploadPartCopy",
      "WriteGetObjectResponse"]),
    ("s3-outposts", [
      "CreateEndpoint DeleteEndpoint ListEndpoints ListOutpostsWithS3 ListSharedEndpoints"]),
    ("s3files", [
      "CreateAccessPoint CreateFileSystem CreateMountTarget DeleteAccessPoint DeleteFileSystem",
      "DeleteFileSystemPolicy DeleteMountTarget GetAccessPoint GetFileSystem",
      "GetFileSystemPolicy GetMountTarget GetSynchronizationConfiguration ListAccessPoints",
      "ListFileSystems ListMountTargets ListTagsForResource PutFileSystemPolicy",
      "PutSynchronizationConfiguration TagResource UntagResource UpdateMountTarget"]),
    ("s3tables", [
      "CreateNamespace CreateTable CreateTableBucket DeleteNamespace DeleteTable",
      "DeleteTableBucket DeleteTableBucketEncryption DeleteTableBucketMetricsConfiguration",
      "DeleteTableBucketPolicy DeleteTableBucketReplication DeleteTablePolicy",
      "DeleteTableReplication GetNamespace GetTable GetTableBucket GetTableBucketEncryption",
      "GetTableBucketMaintenanceConfiguration GetTableBucketMetricsConfiguration",
      "GetTableBucketPolicy GetTableBucketReplication GetTableBucketStorageClass",
      "GetTableEncryption GetTableMaintenanceConfiguration GetTableMaintenanceJobStatus",
      "GetTableMetadataLocation GetTablePolicy GetTableRecordExpirationConfiguration",
      "GetTableRecordExpirationJobStatus GetTableReplication GetTableReplicationStatus",
      "GetTableStorageClass ListNamespaces ListTableBuckets ListTables ListTagsForResource",
      "PutTableBucketEncryption PutTableBucketMaintenanceConfiguration",
      "PutTableBucketMetricsConfiguration PutTableBucketPolicy PutTableBucketReplication",
      "PutTableBucketStorageClass PutTableMaintenanceConfiguration PutTablePolicy",
      "PutTableRecordExpirationConfiguration PutTableReplication RenameTable TagResource",
      "UntagResource UpdateTableMetadataLocation"]),
    ("s3vectors", [
      "CreateIndex CreateVectorBucket DeleteIndex DeleteVectorBucket DeleteVectorBucketPolicy",
      "DeleteVectors GetIndex GetVectorBucket GetVectorBucketPolicy GetVectors ListIndexes",
      "ListTagsForResource ListVectorBuckets ListVectors PutVectorBucketPolicy PutVectors",
      "QueryVectors TagResource UntagResource"]),
    ("sagemaker", [
      "AddAssociation AddTags AssociateTrialComponent AttachClusterNodeVolume",
      "BatchAddClusterNodes BatchDeleteClusterNodes BatchDescribeModelPackage BatchGetMetrics",
      "BatchGetRecord BatchPutMetrics BatchRebootClusterNodes BatchReplaceClusterNodes",
      "CreateAIBenchmarkJob CreateAIRecommendationJob CreateAIWorkloadConfig CreateAction",
      "CreateAlgorithm CreateApp CreateAppImageConfig CreateArtifact CreateAutoMLJob",
      "CreateAutoMLJobV2 CreateCluster CreateClusterSchedulerConfig CreateCodeRepository",
      "CreateCompilationJob CreateComputeQuota CreateContext CreateDataQualityJobDefinition",
      "CreateDeviceFleet CreateDomain CreateEdgeDeploymentPlan CreateEdgeDeploymentStage",
      "CreateEdgePackagingJob CreateEndpoint CreateEndpointConfig CreateExperiment",
      "CreateFeatureGroup CreateFlowDefinition CreateHub CreateHubContentPresignedUrls",
      "CreateHubContentReference CreateHumanTaskUi CreateHyperParameterTuningJob CreateImage",
      "CreateImageVersion CreateInferenceComponent CreateInferenceExperiment",
      "CreateInferenceRecommendationsJob CreateLabelingJob CreateMlflowApp",
      "CreateMlflowTrackingServer CreateModel CreateModelBiasJobDefinition CreateModelCard",
      "CreateModelCardExportJob CreateModelExplainabilityJobDefinition CreateModelPackage",
      "CreateModelPackageGroup CreateModelQualityJobDefinition CreateMonitoringSchedule",
      "CreateNotebookInstance CreateNotebookInstanceLifecycleConfig CreateOptimizationJob",
      "CreatePartnerApp CreatePartnerAppPresignedUrl CreatePipeline CreatePresignedDomainUrl",
      "CreatePresignedMlflowAppUrl CreatePresignedMlflowTrackingServerUrl",
      "CreatePresignedNotebookInstanceUrl CreateProcessingJob CreateProject CreateSpace",
      "CreateStudioLifecycleConfig CreateTrainingJob CreateTrainingPlan CreateTransformJob",
      "CreateTrial CreateTrialComponent CreateUserProfile CreateWorkforce CreateWorkteam",
      "DeleteAIBenchmarkJob DeleteAIRecommendationJob DeleteAIWorkloadConfig DeleteAction",
      "DeleteAlgorithm DeleteApp DeleteAppImageConfig DeleteArtifact DeleteAssociation",
      "DeleteCluster DeleteClusterSchedulerConfig DeleteCodeRepository DeleteCompilationJob",
      "DeleteComputeQuota DeleteContext DeleteDataQualityJobDefinition DeleteDeviceFleet",
      "DeleteDomain DeleteEdgeDeploymentPlan DeleteEdgeDeploymentStage DeleteEndpoint",
      "DeleteEndpointConfig DeleteExperiment DeleteFeatureGroup DeleteFlowDefinition DeleteHub",
      "DeleteHubContent DeleteHubContentReference DeleteHumanLoop DeleteHumanTaskUi",
      "DeleteHyperParameterTuningJob DeleteImage DeleteImageVersion DeleteInferenceComponent",
      "DeleteInferenceExperiment DeleteMlflowApp DeleteMlflowTrackingServer DeleteModel",
      "DeleteModelBiasJobDefinition DeleteModelCard DeleteModelExplainabilityJobDefinition",
      "DeleteModelPackage DeleteModelPackageGroup DeleteModelPackageGroupPolicy",
      "DeleteModelQualityJobDefinition DeleteMonitoringSchedule DeleteNotebookInstance",
      "DeleteNotebookInstanceLifecycleConfig DeleteOptimizationJob DeletePartnerApp",
      "DeletePipeline DeleteProcessingJob DeleteProject DeleteRecord DeleteSpace",
      "DeleteStudioLifecycleConfig DeleteTags DeleteTrainingJob DeleteTrial",
      "DeleteTrialComponent DeleteUserProfile DeleteWorkforce DeleteWorkteam DeregisterDevices",
      "DescribeAIBenchmarkJob DescribeAIRecommendationJob DescribeAIWorkloadConfig",
      "DescribeAction DescribeAlgorithm DescribeApp DescribeAppImageConfig DescribeArtifact",
      "DescribeAutoMLJob DescribeAutoMLJobV2 DescribeCluster DescribeClusterEvent",
      "DescribeClusterNode DescribeClusterSchedulerConfig DescribeCodeRepository",
      "DescribeCompilationJob DescribeComputeQuota DescribeContext",
      "DescribeDataQualityJobDefinition DescribeDevice DescribeDeviceFleet DescribeDomain",
      "DescribeEdgeDeploymentPlan DescribeEdgePackagingJob DescribeEndpoint",
      "DescribeEndpointConfig DescribeExperiment DescribeFeatureGroup DescribeFeatureMetadata",
      "DescribeFlowDefinition DescribeHub DescribeHubContent DescribeHumanLoop",
      "DescribeHumanTaskUi DescribeHyperParameterTuningJob DescribeImage DescribeImageVersion",
      "DescribeInferenceComponent DescribeInferenceExperiment",
      "DescribeInferenceRecommendationsJob DescribeLabelingJob DescribeLineageGroup",
      "DescribeMlflowApp DescribeMlflowTrackingServer DescribeModel",
      "DescribeModelBiasJobDefinition DescribeModelCard DescribeModelCardExportJob",
      "DescribeModelExplainabilityJobDefinition DescribeModelPackage DescribeModelPackageGroup",
      "DescribeModelQualityJobDefinition DescribeMonitoringSchedule DescribeNotebookInstance",
      "DescribeNotebookInstanceLifecycleConfig DescribeOptimizationJob DescribePartnerApp",
      "DescribePipeline DescribePipelineDefinitionForExecution DescribePipelineExecution",
      "DescribeProcessingJob DescribeProject DescribeReservedCapacity DescribeSpace",
      "DescribeStudioLifecycleConfig DescribeSubscribedWorkteam DescribeTrainingJob",
      "DescribeTrainingPlan DescribeTrainingPlanExtensionHistory DescribeTransformJob",
      "DescribeTrial DescribeTrialComponent DescribeUserProfile DescribeWorkforce",
      "DescribeWorkteam DetachClusterNodeVolume DisableSagemakerServicecatalogPortfolio",
      "DisassociateTrialComponent EnableSagemakerServicecatalogPortfolio ExtendTrainingPlan",
      "GetDeployments GetDeviceFleetReport GetDeviceRegistration GetLineageGroupPolicy",
      "GetModelPackageGroupPolicy GetRecord GetSagemakerServicecatalogPortfolioStatus",
      "GetScalingConfigurationRecommendation GetSearchSuggestions ImportHubContent",
      "InvokeEndpoint InvokeEndpointAsync InvokeEndpointWithResponseStream ListAIBenchmarkJobs",
      "ListAIRecommendationJobs ListAIWorkloadConfigs ListActions ListAlgorithms ListAliases",
      "ListAppImageConfigs ListApps ListArtifacts ListAssociations ListAutoMLJobs",
      "ListCandidatesForAutoMLJob ListClusterEvents ListClusterNodes",
      "ListClusterSchedulerConfigs ListClusters ListCodeRepositories ListCompilationJobs",
      "ListComputeQuotas ListContexts ListDataQualityJobDefinitions ListDeviceFleets",
      "ListDevices ListDomains ListEdgeDeploymentPlans ListEdgePackagingJobs",
      "ListEndpointConfigs ListEndpoints ListExperiments ListFeatureGroups ListFlowDefinitions",
      "ListHubContentVersions ListHubContents ListHubs ListHumanLoops ListHumanTaskUis",
      "ListHyperParameterTuningJobs ListImageVersions ListImages ListInferenceComponents",
      "ListInferenceExperiments ListInferenceRecommendationsJobSteps",
      "ListInferenceRecommendationsJobs ListLabelingJobs ListLabelingJobsForWorkteam",
      "ListLineageGroups ListMlflowApps ListMlflowTrackingServers ListModelBiasJobDefinitions",
      "ListModelCardExportJobs ListModelCardVersions ListModelCards",
      "ListModelExplainabilityJobDefinitions ListModelMetadata ListModelPackageGroups",
      "ListModelPackages ListModelQualityJobDefinitions ListModels ListMonitoringAlertHistory",
      "ListMonitoringAlerts ListMonitoringExecutions ListMonitoringSchedules",
      "ListNotebookInstanceLifecycleConfigs ListNotebookInstances ListOptimizationJobs",
      "ListPartnerApps ListPipelineExecutionSteps ListPipelineExecutions",
      "ListPipelineParametersForExecution ListPipelineVersions ListPipelines ListProcessingJobs",
      "ListProjects ListResourceCatalogs ListSpaces ListStageDevices ListStudioLifecycleConfigs",
      "ListSubscribedWorkteams ListTags ListTrainingJobs",
      "ListTrainingJobsForHyperParameterTuningJob ListTrainingPlans ListTransformJobs",
      "ListTrialComponents ListTrials ListUltraServersByReservedCapacity ListUserProfiles",
      "ListWorkforces ListWorkteams PutModelPackageGroupPolicy PutRecord QueryLineage",
      "RegisterDevices RenderUiTemplate RetryPipelineExecution Search",
      "SearchTrainingPlanOfferings SendHeartbeat SendPipelineExecutionStepFailure",
      "SendPipelineExecutionStepSuccess StartClusterHealthCheck StartEdgeDeploymentStage",
      "StartHumanLoop StartInferenceExperiment StartMlflowTrackingServer",
      "StartMonitoringSchedule StartNotebookInstance StartPipelineExecution StartSession",
      "StopAIBenchmarkJob StopAIRecommendationJob StopAutoMLJob StopCompilationJob",
      "StopEdgeDeploymentStage StopEdgePackagingJob StopHumanLoop StopHyperParameterTuningJob",
      "StopInferenceExperiment StopInferenceRecommendationsJob StopLabelingJob",
      "StopMlflowTrackingServer StopMonitoringSchedule StopNotebookInstance StopOptimizationJob",
      "StopPipelineExecution StopProcessingJob StopTrainingJob StopTransformJob UpdateAction",
      "UpdateAppImageConfig UpdateArtifact UpdateCluster UpdateClusterSchedulerConfig",
      "UpdateClusterSoftware UpdateCodeRepository UpdateComputeQuota UpdateContext",
      "UpdateDeviceFleet UpdateDevices UpdateDomain UpdateEndpoint",
      "UpdateEndpointWeightsAndCapacities UpdateExperiment UpdateFeatureGroup",
      "UpdateFeatureMetadata UpdateHub UpdateHubContent UpdateHubContentReference UpdateImage",
      "UpdateImageVersion UpdateInferenceComponent UpdateInferenceComponentRuntimeConfig",
      "UpdateInferenceExperiment UpdateMlflowApp UpdateMlflowTrackingServer UpdateModelCard",
      "UpdateModelPackage UpdateMonitoringAlert UpdateMonitoringSchedule UpdateNotebookInstance",
      "UpdateNotebookInstanceLifecycleConfig UpdatePartnerApp UpdatePipeline",
      "UpdatePipelineExecution UpdatePipelineVersion UpdateProject UpdateSpace",
      "UpdateTrainingJob UpdateTrial UpdateTrialComponent UpdateUserProfile UpdateWorkforce",
      "UpdateWorkteam"]),
    ("sagemaker-geospatial", [
      "DeleteEarthObservationJob DeleteVectorEnrichmentJob ExportEarthObservationJob",
      "ExportVectorEnrichmentJob GetEarthObservationJob GetRasterDataCollection GetTile",
      "GetVectorEnrichmentJob ListEarthObservationJobs ListRasterDataCollections",
      "ListTagsForResource ListVectorEnrichmentJobs SearchRasterDataCollection",
      "StartEarthObservationJob StartVectorEnrichmentJob StopEarthObservationJob",
      "StopVectorEnrichmentJob TagResource UntagResource"]),
    ("savingsplans", [
      "CreateSavingsPlan DeleteQueuedSavingsPlan DescribeSavingsPlanRates DescribeSavingsPlans",
      "DescribeSavingsPlansOfferingRates DescribeSavingsPlansOfferings ListTagsForResource",
      "ReturnSavingsPlan TagResource UntagResource"]),
    ("scheduler", [
      "CreateSchedule CreateScheduleGroup DeleteSchedule DeleteScheduleGroup GetSchedule",
      "GetScheduleGroup ListScheduleGroups ListSchedules ListTagsForResource TagResource",
      "UntagResource UpdateSchedule"]),
    ("schemas", [
      "CreateDiscoverer CreateRegistry CreateSchema DeleteDiscoverer DeleteRegistry",
      "DeleteResourcePolicy DeleteSchema DeleteSchemaVersion DescribeCodeBinding",
      "DescribeDiscoverer DescribeRegistry DescribeSchema ExportSchema GetCodeBindingSource",
      "GetDiscoveredSchema GetResourcePolicy ListDiscoverers ListRegistries ListSchemaVersions",
      "ListSchemas ListTagsForResource PutCodeBinding PutResourcePolicy SearchSchemas",
      "StartDiscoverer StopDiscoverer TagResource UntagResource UpdateDiscoverer UpdateRegistry",
      "UpdateSchema"]),
    ("scn", [
      "CreateBillOfMaterialsImportJob CreateDataIntegrationFlow CreateDataLakeDataset",
      "CreateDataLakeNamespace CreateInstance DeleteDataIntegrationFlow DeleteDataLakeDataset",
      "DeleteDataLakeNamespace DeleteInstance GetBillOfMaterialsImportJob",
      "GetDataIntegrationEvent GetDataIntegrationFlow GetDataIntegrationFlowExecution",
      "GetDataLakeDataset GetDataLakeNamespace GetInstance ListDataIntegrationEvents",
      "ListDataIntegrationFlowExecutions ListDataIntegrationFlows ListDataLakeDatasets",
      "ListDataLakeNamespaces ListInstances ListTagsForResource SendDataIntegrationEvent",
      "TagResource UntagResource UpdateDataIntegrationFlow UpdateDataLakeDataset",
      "UpdateDataLakeNamespace UpdateInstance"]),
    ("sdb", [
      "BatchDeleteAttributes BatchPutAttributes CreateDomain DeleteAttributes DeleteDomain",
      "DomainMetadata GetAttributes GetExport ListDomains ListExports PutAttributes Select",
      "StartDomainExport"]),
    ("secretsmanager", [
      "BatchGetSecretValue CancelRotateSecret CreateSecret DeleteResourcePolicy DeleteSecret",
      "DescribeSecret GetRandomPassword GetResourcePolicy GetSecretValue ListSecretVersionIds",
      "ListSecrets PutResourcePolicy PutSecretValue RemoveRegionsFromReplication",
      "ReplicateSecretToRegions RestoreSecret RotateSecret StopReplicationToReplica TagResource",
      "UntagResource UpdateSecret UpdateSecretVersionStage ValidateResourcePolicy"]),
    ("security-ir", [
      "BatchGetMemberAccountDetails CancelMembership CloseCase CreateCase CreateCaseComment",
      "CreateMembership GetCase GetCaseAttachmentDownloadUrl GetCaseAttachmentUploadUrl",
      "GetMembership ListCaseEdits ListCases ListComments ListInvestigations ListMemberships",
      "ListTagsForResource SendFeedback TagResource UntagResource UpdateCase UpdateCaseComment",
      "UpdateCaseStatus UpdateMembership UpdateResolverType"]),
    ("securityagent", [
      "AddArtifact BatchDeleteCodeReviews BatchDeletePentests BatchGetAgentSpaces",
      "BatchGetArtifactMetadata BatchGetCodeReviewJobTasks BatchGetCodeReviewJobs",
      "BatchGetCodeReviews BatchGetFindings BatchGetPentestJobTasks BatchGetPentestJobs",
      "BatchGetPentests BatchGetTargetDomains CreateAgentSpace CreateApplication",
      "CreateCodeReview CreateIntegration CreateMembership CreatePentest CreateTargetDomain",
      "DeleteAgentSpace DeleteApplication DeleteArtifact DeleteIntegration DeleteMembership",
      "DeleteTargetDomain GetApplication GetArtifact GetIntegration",
      "InitiateProviderRegistration ListAgentSpaces ListApplications ListArtifacts",
      "ListCodeReviewJobTasks ListCodeReviewJobsForCodeReview ListCodeReviews",
      "ListDiscoveredEndpoints ListFindings ListIntegratedResources ListIntegrations",
      "ListMemberships ListPentestJobTasks ListPentestJobsForPentest ListPentests",
      "ListTagsForResource ListTargetDomains StartCodeRemediation StartCodeReviewJob",
      "StartPentestJob StopCodeReviewJob StopPentestJob TagResource UntagResource",
      "UpdateAgentSpace UpdateApplication UpdateCodeReview UpdateFinding",
      "UpdateIntegratedResources UpdatePentest UpdateTargetDomain VerifyTargetDomain"]),
    ("securityhub", [
      "AcceptAdministratorInvitation AcceptInvitation BatchDeleteAutomationRules",
      "BatchDisableStandards BatchEnableStandards BatchGetAutomationRules",
      "BatchGetConfigurationPolicyAssociations BatchGetSecurityControls",
      "BatchGetStandardsControlAssociations BatchImportFindings BatchUpdateAutomationRules",
      "BatchUpdateFindings BatchUpdateFindingsV2 BatchUpdateStandardsControlAssociations",
      "CreateActionTarget CreateAggregatorV2 CreateAutomationRule CreateAutomationRuleV2",
      "CreateConfigurationPolicy CreateConnectorV2 CreateFindingAggregator CreateInsight",
      "CreateMembers CreateTicketV2 DeclineInvitations DeleteActionTarget DeleteAggregatorV2",
      "DeleteAutomationRuleV2 DeleteConfigurationPolicy DeleteConnectorV2",
      "DeleteFindingAggregator DeleteInsight DeleteInvitations DeleteMembers",
      "DescribeActionTargets DescribeHub DescribeOrganizationConfiguration DescribeProducts",
      "DescribeProductsV2 DescribeSecurityHubV2 DescribeStandards DescribeStandardsControls",
      "DisableImportFindingsForProduct DisableOrganizationAdminAccount DisableSecurityHub",
      "DisableSecurityHubV2 DisassociateFromAdministratorAccount DisassociateFromMasterAccount",
      "DisassociateMembers EnableImportFindingsForProduct EnableOrganizationAdminAccount",
      "EnableSecurityHub EnableSecurityHubV2 GenerateRecommendedPolicyV2",
      "GetAdministratorAccount GetAggregatorV2 GetAutomationRuleV2 GetConfigurationPolicy",
      "GetConfigurationPolicyAssociation GetConnectorV2 GetEnabledStandards",
      "GetFindingAggregator GetFindingHistory GetFindingStatisticsV2 GetFindings",
      "GetFindingsTrendsV2 GetFindingsV2 GetInsightResults GetInsights GetInvitationsCount",
      "GetMasterAccount GetMembers GetRecommendedPolicyV2 GetResourcesStatisticsV2",
      "GetResourcesTrendsV2 GetResourcesV2 GetSecurityControlDefinition InviteMembers",
      "ListAggregatorsV2 ListAutomationRules ListAutomationRulesV2 ListConfigurationPolicies",
      "ListConfigurationPolicyAssociations ListConnectorsV2 ListEnabledProductsForImport",
      "ListFindingAggregators ListInvitations ListMembers ListOrganizationAdminAccounts",
      "ListSecurityControlDefinitions ListStandardsControlAssociations ListTagsForResource",
      "RegisterConnectorV2 StartConfigurationPolicyAssociation",
      "StartConfigurationPolicyDisassociation TagResource UntagResource UpdateActionTarget",
      "UpdateAggregatorV2 UpdateAutomationRuleV2 UpdateConfigurationPolicy UpdateConnectorV2",
      "UpdateFindingAggregator UpdateFindings UpdateInsight UpdateOrganizationConfiguration",
      "UpdateSecurityControl UpdateSecurityHubConfiguration UpdateStandardsControl"]),
    ("securitylake", [
      "CreateAwsLogSource CreateCustomLogSource CreateDataLake",
      "CreateDataLakeExceptionSubscription CreateDataLakeOrganizationConfiguration",
      "CreateSubscriber CreateSubscriberNotification DeleteAwsLogSource DeleteCustomLogSource",
      "DeleteDataLake DeleteDataLakeExceptionSubscription",
      "DeleteDataLakeOrganizationConfiguration DeleteSubscriber DeleteSubscriberNotification",
      "DeregisterDataLakeDelegatedAdministrator GetDataLakeExceptionSubscription",
      "GetDataLakeOrganizationConfiguration GetDataLakeSources GetSubscriber",
      "ListDataLakeExceptions ListDataLakes ListLogSources ListSubscribers ListTagsForResource",
      "RegisterDataLakeDelegatedAdministrator TagResource UntagResource UpdateDataLake",
      "UpdateDataLakeExceptionSubscription UpdateSubscriber UpdateSubscriberNotification"]),
    ("serverlessrepo", [
      "CreateApplication CreateApplicationVersion CreateCloudFormationChangeSet",
      "CreateCloudFormationTemplate DeleteApplication GetApplication GetApplicationPolicy",
      "GetCloudFormationTemplate ListApplicationDependencies ListApplicationVersions",
      "ListApplications PutApplicationPolicy UnshareApplication UpdateApplication"]),
    ("servicecatalog", [
      "AcceptPortfolioShare AssociateAttributeGroup AssociateBudgetWithResource",
      "AssociatePrincipalWithPortfolio AssociateProductWithPortfolio AssociateResource",
      "AssociateServiceActionWithProvisioningArtifact AssociateTagOptionWithResource",
      "BatchAssociateServiceActionWithProvisioningArtifact",
      "BatchDisassociateServiceActionFromProvisioningArtifact CopyProduct CreateApplication",
      "CreateAttributeGroup CreateConstraint CreatePortfolio CreatePortfolioShare CreateProduct",
      "CreateProvisionedProductPlan CreateProvisioningArtifact CreateServiceAction",
      "CreateTagOption DeleteApplication DeleteAttributeGroup DeleteConstraint DeletePortfolio",
      "DeletePortfolioShare DeleteProduct DeleteProvisionedProductPlan",
      "DeleteProvisioningArtifact DeleteServiceAction DeleteTagOption DescribeConstraint",
      "DescribeCopyProductStatus DescribePortfolio DescribePortfolioShareStatus",
      "DescribePortfolioShares DescribeProduct DescribeProductAsAdmin DescribeProductView",
      "DescribeProvisionedProduct DescribeProvisionedProductPlan DescribeProvisioningArtifact",
      "DescribeProvisioningParameters DescribeRecord DescribeServiceAction",
      "DescribeServiceActionExecutionParameters DescribeTagOption DisableAWSOrganizationsAccess",
      "DisassociateAttributeGroup DisassociateBudgetFromResource",
      "DisassociatePrincipalFromPortfolio DisassociateProductFromPortfolio DisassociateResource",
      "DisassociateServiceActionFromProvisioningArtifact DisassociateTagOptionFromResource",
      "EnableAWSOrganizationsAccess ExecuteProvisionedProductPlan",
      "ExecuteProvisionedProductServiceAction GetAWSOrganizationsAccessStatus GetApplication",
      "GetAssociatedResource GetAttributeGroup GetConfiguration GetProvisionedProductOutputs",
      "ImportAsProvisionedProduct ListAcceptedPortfolioShares ListApplications",
      "ListAssociatedAttributeGroups ListAssociatedResources ListAttributeGroups",
      "ListAttributeGroupsForApplication ListBudgetsForResource ListConstraintsForPortfolio",
      "ListLaunchPaths ListOrganizationPortfolioAccess ListPortfolioAccess ListPortfolios",
      "ListPortfoliosForProduct ListPrincipalsForPortfolio ListProvisionedProductPlans",
      "ListProvisioningArtifacts ListProvisioningArtifactsForServiceAction ListRecordHistory",
      "ListResourcesForTagOption ListServiceActions ListServiceActionsForProvisioningArtifact",
      "ListStackInstancesForProvisionedProduct ListTagOptions ListTagsForResource",
      "NotifyProvisionProductEngineWorkflowResult",
      "NotifyTerminateProvisionedProductEngineWorkflowResult",
      "NotifyUpdateProvisionedProductEngineWorkflowResult ProvisionProduct PutConfiguration",
      "RejectPortfolioShare ScanProvisionedProducts SearchProducts SearchProductsAsAdmin",
      "SearchProvisionedProducts SyncResource TagResource TerminateProvisionedProduct",
      "UntagResource UpdateApplication UpdateAttributeGroup UpdateConstraint UpdatePortfolio",
      "UpdatePortfolioShare UpdateProduct UpdateProvisionedProduct",
      "UpdateProvisionedProductProperties UpdateProvisioningArtifact UpdateServiceAction",
      "UpdateTagOption"]),
    ("servicediscovery", [
      "CreateHttpNamespace CreatePrivateDnsNamespace CreatePublicDnsNamespace CreateService",
      "DeleteNamespace DeleteService DeleteServiceAttributes DeregisterInstance",
      "DiscoverInstances DiscoverInstancesRevision GetInstance GetInstancesHealthStatus",
      "GetNamespace GetOperation GetService GetServiceAttributes ListInstances ListNamespaces",
      "ListOperations ListServices ListTagsForResource RegisterInstance TagResource",
      "UntagResource UpdateHttpNamespace UpdateInstanceCustomHealthStatus",
      "UpdatePrivateDnsNamespace UpdatePublicDnsNamespace UpdateService UpdateServiceAttributes"]),
    ("servicequotas", [
      "AssociateServiceQuotaTemplate CreateSupportCase",
      "DeleteServiceQuotaIncreaseRequestFromTemplate DisassociateServiceQuotaTemplate",
      "GetAWSDefaultServiceQuota GetAssociationForServiceQuotaTemplate",
      "GetAutoManagementConfiguration GetQuotaUtilizationReport GetRequestedServiceQuotaChange",
      "GetServiceQuota GetServiceQuotaIncreaseRequestFromTemplate ListAWSDefaultServiceQuotas",
      "ListRequestedServiceQuotaChangeHistory ListRequestedServiceQuotaChangeHistoryByQuota",
      "ListServiceQuotaIncreaseRequestsInTemplate ListServiceQuotas ListServices",
      "ListTagsForResource PutServiceQuotaIncreaseRequestIntoTemplate",
      "RequestServiceQuotaIncrease StartAutoManagement StartQuotaUtilizationReport",
      "StopAutoManagement TagResource UntagResource UpdateAutoManagement"]),
    ("ses", [
      "BatchGetMetricData CancelExportJob CloneReceiptRuleSet CreateAddonInstance",
      "CreateAddonSubscription CreateAddressList CreateAddressListImportJob CreateArchive",
      "CreateConfigurationSet CreateConfigurationSetEventDestination",
      "CreateConfigurationSetTrackingOptions CreateContact CreateContactList",
      "CreateCustomVerificationEmailTemplate CreateDedicatedIpPool",
      "CreateDeliverabilityTestReport CreateEmailIdentity CreateEmailIdentityPolicy",
      "CreateEmailTemplate CreateExportJob CreateImportJob CreateIngressPoint",
      "CreateMultiRegionEndpoint CreateReceiptFilter CreateReceiptRule CreateReceiptRuleSet",
      "CreateRelay CreateRuleSet CreateTemplate CreateTenant CreateTenantResourceAssociation",
      "CreateTrafficPolicy DeleteAddonInstance DeleteAddonSubscription DeleteAddressList",
      "DeleteArchive DeleteConfigurationSet DeleteConfigurationSetEventDestination",
      "DeleteConfigurationSetTrackingOptions DeleteContact DeleteContactList",
      "DeleteCustomVerificationEmailTemplate DeleteDedicatedIpPool DeleteEmailIdentity",
      "DeleteEmailIdentityPolicy DeleteEmailTemplate DeleteIdentity DeleteIdentityPolicy",
      "DeleteIngressPoint DeleteMultiRegionEndpoint DeleteReceiptFilter DeleteReceiptRule",
      "DeleteReceiptRuleSet DeleteRelay DeleteRuleSet DeleteSuppressedDestination",
      "DeleteTemplate DeleteTenant DeleteTenantResourceAssociation DeleteTrafficPolicy",
      "DeleteVerifiedEmailAddress DeregisterMemberFromAddressList DescribeActiveReceiptRuleSet",
      "DescribeConfigurationSet DescribeReceiptRule DescribeReceiptRuleSet GetAccount",
      "GetAccountSendingEnabled GetAddonInstance GetAddonSubscription GetAddressList",
      "GetAddressListImportJob GetArchive GetArchiveExport GetArchiveMessage",
      "GetArchiveMessageContent GetArchiveSearch GetArchiveSearchResults GetBlacklistReports",
      "GetConfigurationSet GetConfigurationSetEventDestinations GetContact GetContactList",
      "GetCustomVerificationEmailTemplate GetDedicatedIp GetDedicatedIpPool GetDedicatedIps",
      "GetDeliverabilityDashboardOptions GetDeliverabilityTestReport",
      "GetDomainDeliverabilityCampaign GetDomainStatisticsReport GetEmailAddressInsights",
      "GetEmailIdentity GetEmailIdentityPolicies GetEmailTemplate GetExportJob",
      "GetIdentityDkimAttributes GetIdentityMailFromDomainAttributes",
      "GetIdentityNotificationAttributes GetIdentityPolicies GetIdentityVerificationAttributes",
      "GetImportJob GetIngressPoint GetMemberOfAddressList GetMessageInsights",
      "GetMultiRegionEndpoint GetRelay GetReputationEntity GetRuleSet GetSendQuota",
      "GetSendStatistics GetSuppressedDestination GetTemplate GetTenant GetTrafficPolicy",
      "ListAddonInstances ListAddonSubscriptions ListAddressListImportJobs ListAddressLists",
      "ListArchiveExports ListArchiveSearches ListArchives ListConfigurationSets",
      "ListContactLists ListContacts ListCustomVerificationEmailTemplates ListDedicatedIpPools",
      "ListDeliverabilityTestReports ListDomainDeliverabilityCampaigns ListEmailIdentities",
      "ListEmailTemplates ListExportJobs ListIdentities ListIdentityPolicies ListImportJobs",
      "ListIngressPoints ListMembersOfAddressList ListMultiRegionEndpoints ListReceiptFilters",
      "ListReceiptRuleSets ListRecommendations ListRelays ListReputationEntities",
      "ListResourceTenants ListRuleSets ListSuppressedDestinations ListTagsForResource",
      "ListTemplates ListTenantResources ListTenants ListTrafficPolicies",
      "ListVerifiedEmailAddresses PutAccountDedicatedIpWarmupAttributes PutAccountDetails",
      "PutAccountSendingAttributes PutAccountSuppressionAttributes PutAccountVdmAttributes",
      "PutConfigurationSetArchivingOptions PutConfigurationSetDeliveryOptions",
      "PutConfigurationSetReputationOptions PutConfigurationSetSendingOptions",
      "PutConfigurationSetSuppressionOptions PutConfigurationSetTrackingOptions",
      "PutConfigurationSetVdmOptions PutDedicatedIpInPool PutDedicatedIpPoolScalingAttributes",
      "PutDedicatedIpWarmupAttributes PutDeliverabilityDashboardOption",
      "PutEmailIdentityConfigurationSetAttributes PutEmailIdentityDkimAttributes",
      "PutEmailIdentityDkimSigningAttributes PutEmailIdentityFeedbackAttributes",
      "PutEmailIdentityMailFromAttributes PutIdentityPolicy PutSuppressedDestination",
      "RegisterMemberToAddressList ReorderReceiptRuleSet SendBounce SendBulkEmail",
      "SendBulkTemplatedEmail SendCustomVerificationEmail SendEmail SendRawEmail",
      "SendTemplatedEmail SetActiveReceiptRuleSet SetIdentityDkimEnabled",
      "SetIdentityFeedbackForwardingEnabled SetIdentityHeadersInNotificationsEnabled",
      "SetIdentityMailFromDomain SetIdentityNotificationTopic SetReceiptRulePosition",
      "StartAddressListImportJob StartArchiveExport StartArchiveSearch StopAddressListImportJob",
      "StopArchiveExport StopArchiveSearch TagResource TestRenderEmailTemplate",
      "TestRenderTemplate UntagResource UpdateAccountSendingEnabled UpdateArchive",
      "UpdateConfigurationSetEventDestination UpdateConfigurationSetReputationMetricsEnabled",
      "UpdateConfigurationSetSendingEnabled UpdateConfigurationSetTrackingOptions UpdateContact",
      "UpdateContactList UpdateCustomVerificationEmailTemplate UpdateEmailIdentityPolicy",
      "UpdateEmailTemplate UpdateIngressPoint UpdateReceiptRule UpdateRelay",
      "UpdateReputationEntityCustomerManagedStatus UpdateReputationEntityPolicy UpdateRuleSet",
      "UpdateTemplate UpdateTrafficPolicy VerifyDomainDkim VerifyDomainIdentity",
      "VerifyEmailAddress VerifyEmailIdentity"]),
    ("shield", [
      "AssociateDRTLogBucket AssociateDRTRole AssociateHealthCheck",
      "AssociateProactiveEngagementDetails CreateProtection CreateProtectionGroup",
      "CreateSubscription DeleteProtection DeleteProtectionGroup DeleteSubscription",
      "DescribeAttack DescribeAttackStatistics DescribeDRTAccess",
      "DescribeEmergencyContactSettings DescribeProtection DescribeProtectionGroup",
      "DescribeSubscription DisableApplicationLayerAutomaticResponse DisableProactiveEngagement",
      "DisassociateDRTLogBucket DisassociateDRTRole DisassociateHealthCheck",
      "EnableApplicationLayerAutomaticResponse EnableProactiveEngagement GetSubscriptionState",
      "ListAttacks ListProtectionGroups ListProtections ListResourcesInProtectionGroup",
      "ListTagsForResource TagResource UntagResource UpdateApplicationLayerAutomaticResponse",
      "UpdateEmergencyContactSettings UpdateProtectionGroup UpdateSubscription"]),
    ("signer", [
      "AddProfilePermission CancelSigningProfile DescribeSigningJob GetRevocationStatus",
      "GetSigningPlatform GetSigningProfile ListProfilePermissions ListSigningJobs",
      "ListSigningPlatforms ListSigningProfiles ListTagsForResource PutSigningProfile",
      "RemoveProfilePermission RevokeSignature RevokeSigningProfile SignPayload StartSigningJob",
      "TagResource UntagResource"]),
    ("signin", ["CreateOAuth2Token"]),
    ("simspaceweaver", [
      "CreateSnapshot DeleteApp DeleteSimulation DescribeApp DescribeSimulation ListApps",
      "ListSimulations ListTagsForResource StartApp StartClock StartSimulation StopApp",
      "StopClock StopSimulation TagResource UntagResource"]),
    ("sms-voice", [
      "AssociateOriginationIdentity AssociateProtectConfiguration CarrierLookup",
      "CreateConfigurationSet CreateConfigurationSetEventDestination CreateEventDestination",
      "CreateNotifyConfiguration CreateOptOutList CreatePool CreateProtectConfiguration",
      "CreateRcsAgent CreateRegistration CreateRegistrationAssociation",
      "CreateRegistrationAttachment CreateRegistrationVersion CreateVerifiedDestinationNumber",
      "DeleteAccountDefaultProtectConfiguration DeleteConfigurationSet",
      "DeleteConfigurationSetEventDestination DeleteDefaultMessageType DeleteDefaultSenderId",
      "DeleteEventDestination DeleteKeyword DeleteMediaMessageSpendLimitOverride",
      "DeleteNotifyConfiguration DeleteNotifyMessageSpendLimitOverride DeleteOptOutList",
      "DeleteOptedOutNumber DeletePool DeleteProtectConfiguration",
      "DeleteProtectConfigurationRuleSetNumberOverride DeleteRcsAgent DeleteRegistration",
      "DeleteRegistrationAttachment DeleteRegistrationFieldValue DeleteResourcePolicy",
      "DeleteTextMessageSpendLimitOverride DeleteVerifiedDestinationNumber",
      "DeleteVoiceMessageSpendLimitOverride DescribeAccountAttributes DescribeAccountLimits",
      "DescribeConfigurationSets DescribeKeywords DescribeNotifyConfigurations",
      "DescribeNotifyTemplates DescribeOptOutLists DescribeOptedOutNumbers DescribePhoneNumbers",
      "DescribePools DescribeProtectConfigurations DescribeRcsAgentCountryLaunchStatus",
      "DescribeRcsAgents DescribeRegistrationAttachments DescribeRegistrationFieldDefinitions",
      "DescribeRegistrationFieldValues DescribeRegistrationSectionDefinitions",
      "DescribeRegistrationTypeDefinitions DescribeRegistrationVersions DescribeRegistrations",
      "DescribeSenderIds DescribeSpendLimits DescribeVerifiedDestinationNumbers",
      "DisassociateOriginationIdentity DisassociateProtectConfiguration",
      "DiscardRegistrationVersion GetConfigurationSetEventDestinations",
      "GetProtectConfigurationCountryRuleSet GetResourcePolicy ListConfigurationSets",
      "ListNotifyCountries ListPoolOriginationIdentities",
      "ListProtectConfigurationRuleSetNumberOverrides ListRegistrationAssociations",
      "ListTagsForResource PutKeyword PutMessageFeedback PutOptedOutNumber",
      "PutProtectConfigurationRuleSetNumberOverride PutRegistrationFieldValue PutResourcePolicy",
      "ReleasePhoneNumber ReleaseSenderId RequestPhoneNumber RequestSenderId",
      "SendDestinationNumberVerificationCode SendMediaMessage SendNotifyTextMessage",
      "SendNotifyVoiceMessage SendTextMessage SendVoiceMessage",
      "SetAccountDefaultProtectConfiguration SetDefaultMessageFeedbackEnabled",
      "SetDefaultMessageType SetDefaultSenderId SetMediaMessageSpendLimitOverride",
      "SetNotifyMessageSpendLimitOverride SetTextMessageSpendLimitOverride",
      "SetVoiceMessageSpendLimitOverride SubmitRegistrationVersion TagResource UntagResource",
      "UpdateConfigurationSetEventDestination UpdateEventDestination UpdateNotifyConfiguration",
      "UpdatePhoneNumber UpdatePool UpdateProtectConfiguration",
      "UpdateProtectConfigurationCountryRuleSet UpdateRcsAgent UpdateSenderId",
      "VerifyDestinationNumber"]),
    ("snow-device-management", [
      "CancelTask CreateTask DescribeDevice DescribeDeviceEc2Instances DescribeExecution",
      "DescribeTask ListDeviceResources ListDevices ListExecutions ListTagsForResource",
      "ListTasks TagResource UntagResource"]),
    ("snowball", [
      "CancelCluster CancelJob CreateAddress CreateCluster CreateJob CreateLongTermPricing",
      "CreateReturnShippingLabel DescribeAddress DescribeAddresses DescribeCluster DescribeJob",
      "DescribeReturnShippingLabel GetJobManifest GetJobUnlockCode GetSnowballUsage",
      "GetSoftwareUpdates ListClusterJobs ListClusters ListCompatibleImages ListJobs",
      "ListLongTermPricing ListPickupLocations ListServiceVersions UpdateCluster UpdateJob",
      "UpdateJobShipmentState UpdateLongTermPricing"]),
    ("sns", [
      "AddPermission CheckIfPhoneNumberIsOptedOut ConfirmSubscription CreatePlatformApplication",
      "CreatePlatformEndpoint CreateSMSSandboxPhoneNumber CreateTopic DeleteEndpoint",
      "DeletePlatformApplication DeleteSMSSandboxPhoneNumber DeleteTopic",
      "GetDataProtectionPolicy GetEndpointAttributes GetPlatformApplicationAttributes",
      "GetSMSAttributes GetSMSSandboxAccountStatus GetSubscriptionAttributes GetTopicAttributes",
      "ListEndpointsByPlatformApplication ListOriginationNumbers ListPhoneNumbersOptedOut",
      "ListPlatformApplications ListSMSSandboxPhoneNumbers ListSubscriptions",
      "ListSubscriptionsByTopic ListTagsForResource ListTopics OptInPhoneNumber Publish",
      "PublishBatch PutDataProtectionPolicy RemovePermission SetEndpointAttributes",
      "SetPlatformApplicationAttributes SetSMSAttributes SetSubscriptionAttributes",
      "SetTopicAttributes Subscribe TagResource Unsubscribe UntagResource",
      "VerifySMSSandboxPhoneNumber"]),
    ("social-messaging", [
      "AssociateWhatsAppBusinessAccount CreateWhatsAppMessageTemplate",
      "CreateWhatsAppMessageTemplateFromLibrary CreateWhatsAppMessageTemplateMedia",
      "DeleteWhatsAppMessageMedia DeleteWhatsAppMessageTemplate",
      "DisassociateWhatsAppBusinessAccount GetLinkedWhatsAppBusinessAccount",
      "GetLinkedWhatsAppBusinessAccountPhoneNumber GetWhatsAppMessageMedia",
      "GetWhatsAppMessageTemplate ListLinkedWhatsAppBusinessAccounts ListTagsForResource",
      "ListWhatsAppMessageTemplates ListWhatsAppTemplateLibrary PostWhatsAppMessageMedia",
      "PutWhatsAppBusinessAccountEventDestinations SendWhatsAppMessage TagResource",
      "UntagResource UpdateWhatsAppMessageTemplate"]),
    ("sqs", [
      "AddPermission CancelMessageMoveTask ChangeMessageVisibility ChangeMessageVisibilityBatch",
      "CreateQueue DeleteMessage DeleteMessageBatch DeleteQueue GetQueueAttributes GetQueueUrl",
      "ListDeadLetterSourceQueues ListMessageMoveTasks ListQueueTags ListQueues PurgeQueue",
      "ReceiveMessage RemovePermission SendMessage SendMessageBatch SetQueueAttributes",
      "StartMessageMoveTask TagQueue UntagQueue"]),
    ("ssm", [
      "AddTagsToResource AssociateOpsItemRelatedItem CancelCommand",
      "CancelMaintenanceWindowExecution CreateActivation CreateAssociation",
      "CreateAssociationBatch CreateDocument CreateMaintenanceWindow CreateOpsItem",
      "CreateOpsMetadata CreatePatchBaseline CreateResourceDataSync DeleteActivation",
      "DeleteAssociation DeleteDocument DeleteInventory DeleteMaintenanceWindow DeleteOpsItem",
      "DeleteOpsMetadata DeleteParameter DeleteParameters DeletePatchBaseline",
      "DeleteResourceDataSync DeleteResourcePolicy DeregisterManagedInstance",
      "DeregisterPatchBaselineForPatchGroup DeregisterTargetFromMaintenanceWindow",
      "DeregisterTaskFromMaintenanceWindow DescribeActivations DescribeAssociation",
      "DescribeAssociationExecutionTargets DescribeAssociationExecutions",
      "DescribeAutomationExecutions DescribeAutomationStepExecutions DescribeAvailablePatches",
      "DescribeDocument DescribeDocumentPermission DescribeEffectiveInstanceAssociations",
      "DescribeEffectivePatchesForPatchBaseline DescribeInstanceAssociationsStatus",
      "DescribeInstanceInformation DescribeInstancePatchStates",
      "DescribeInstancePatchStatesForPatchGroup DescribeInstancePatches",
      "DescribeInstanceProperties DescribeInventoryDeletions",
      "DescribeMaintenanceWindowExecutionTaskInvocations",
      "DescribeMaintenanceWindowExecutionTasks DescribeMaintenanceWindowExecutions",
      "DescribeMaintenanceWindowSchedule DescribeMaintenanceWindowTargets",
      "DescribeMaintenanceWindowTasks DescribeMaintenanceWindows",
      "DescribeMaintenanceWindowsForTarget DescribeOpsItems DescribeParameters",
      "DescribePatchBaselines DescribePatchGroupState DescribePatchGroups",
      "DescribePatchProperties DescribeSessions DisassociateOpsItemRelatedItem GetAccessToken",
      "GetAutomationExecution GetCalendarState GetCommandInvocation GetConnectionStatus",
      "GetDefaultPatchBaseline GetDeployablePatchSnapshotForInstance GetDocument",
      "GetExecutionPreview GetInventory GetInventorySchema GetMaintenanceWindow",
      "GetMaintenanceWindowExecution GetMaintenanceWindowExecutionTask",
      "GetMaintenanceWindowExecutionTaskInvocation GetMaintenanceWindowTask GetOpsItem",
      "GetOpsMetadata GetOpsSummary GetParameter GetParameterHistory GetParameters",
      "GetParametersByPath GetPatchBaseline GetPatchBaselineForPatchGroup GetResourcePolicies",
      "GetServiceSetting LabelParameterVersion ListAssociationVersions ListAssociations",
      "ListCommandInvocations ListCommands ListComplianceItems ListComplianceSummaries",
      "ListDocumentMetadataHistory ListDocumentVersions ListDocuments ListInventoryEntries",
      "ListNodes ListNodesSummary ListOpsItemEvents ListOpsItemRelatedItems ListOpsMetadata",
      "ListResourceComplianceSummaries ListResourceDataSync ListTagsForResource",
      "ModifyDocumentPermission PutComplianceItems PutInventory PutParameter PutResourcePolicy",
      "RegisterDefaultPatchBaseline RegisterPatchBaselineForPatchGroup",
      "RegisterTargetWithMaintenanceWindow RegisterTaskWithMaintenanceWindow",
      "RemoveTagsFromResource ResetServiceSetting ResumeSession SendAutomationSignal",
      "SendCommand StartAccessRequest StartAssociationsOnce StartAutomationExecution",
      "StartChangeRequestExecution StartExecutionPreview StartSession StopAutomationExecution",
      "TerminateSession UnlabelParameterVersion UpdateAssociation UpdateAssociationStatus",
      "UpdateDocument UpdateDocumentDefaultVersion UpdateDocumentMetadata",
      "UpdateMaintenanceWindow UpdateMaintenanceWindowTarget UpdateMaintenanceWindowTask",
      "UpdateManagedInstanceRole UpdateOpsItem UpdateOpsMetadata UpdatePatchBaseline",
      "UpdateResourceDataSync UpdateServiceSetting"]),
    ("ssm-contacts", [
      "AcceptPage ActivateContactChannel CreateContact CreateContactChannel CreateRotation",
      "CreateRotationOverride DeactivateContactChannel DeleteContact DeleteContactChannel",
      "DeleteRotation DeleteRotationOverride DescribeEngagement DescribePage GetContact",
      "GetContactChannel GetContactPolicy GetRotation GetRotationOverride ListContactChannels",
      "ListContacts ListEngagements ListPageReceipts ListPageResolutions ListPagesByContact",
      "ListPagesByEngagement ListPreviewRotationShifts ListRotationOverrides ListRotationShifts",
      "ListRotations ListTagsForResource PutContactPolicy SendActivationCode StartEngagement",
      "StopEngagement TagResource UntagResource UpdateContact UpdateContactChannel",
      "UpdateRotation"]),
    ("ssm-guiconnect", [
      "DeleteConnectionRecordingPreferences GetConnectionRecordingPreferences",
      "UpdateConnectionRecordingPreferences"]),
    ("ssm-incidents", [
      "BatchGetIncidentFindings CreateReplicationSet CreateResponsePlan CreateTimelineEvent",
      "DeleteIncidentRecord DeleteReplicationSet DeleteResourcePolicy DeleteResponsePlan",
      "DeleteTimelineEvent GetIncidentRecord GetReplicationSet GetResourcePolicies",
      "GetResponsePlan GetTimelineEvent ListIncidentFindings ListIncidentRecords",
      "ListRelatedItems ListReplicationSets ListResponsePlans ListTagsForResource",
      "ListTimelineEvents PutResourcePolicy StartIncident TagResource UntagResource",
      "UpdateDeletionProtection UpdateIncidentRecord UpdateRelatedItems UpdateReplicationSet",
      "UpdateResponsePlan UpdateTimelineEvent"]),
    ("ssm-quicksetup", [
      "CreateConfigurationManager DeleteConfigurationManager GetConfiguration",
      "GetConfigurationManager GetServiceSettings ListConfigurationManagers ListConfigurations",
      "ListQuickSetupTypes ListTagsForResource TagResource UntagResource",
      "UpdateConfigurationDefinition UpdateConfigurationManager UpdateServiceSettings"]),
    ("ssm-sap", [
      "DeleteResourcePermission DeregisterApplication GetApplication GetComponent",
      "GetConfigurationCheckOperation GetDatabase GetOperation GetResourcePermission",
      "ListApplications ListComponents ListConfigurationCheckDefinitions",
      "ListConfigurationCheckOperations ListDatabases ListOperationEvents ListOperations",
      "ListSubCheckResults ListSubCheckRuleResults ListTagsForResource PutResourcePermission",
      "RegisterApplication StartApplication StartApplicationRefresh StartConfigurationChecks",
      "StopApplication TagResource UntagResource UpdateApplicationSettings"]),
    ("sso", [
      "AddRegion AttachCustomerManagedPolicyReferenceToPermissionSet",
      "AttachManagedPolicyToPermissionSet CreateAccountAssignment CreateApplication",
      "CreateApplicationAssignment CreateInstance",
      "CreateInstanceAccessControlAttributeConfiguration CreatePermissionSet",
      "CreateTrustedTokenIssuer DeleteAccountAssignment DeleteApplication",
      "DeleteApplicationAccessScope DeleteApplicationAssignment",
      "DeleteApplicationAuthenticationMethod DeleteApplicationGrant",
      "DeleteInlinePolicyFromPermissionSet DeleteInstance",
      "DeleteInstanceAccessControlAttributeConfiguration DeletePermissionSet",
      "DeletePermissionsBoundaryFromPermissionSet DeleteTrustedTokenIssuer",
      "DescribeAccountAssignmentCreationStatus DescribeAccountAssignmentDeletionStatus",
      "DescribeApplication DescribeApplicationAssignment DescribeApplicationProvider",
      "DescribeInstance DescribeInstanceAccessControlAttributeConfiguration",
      "DescribePermissionSet DescribePermissionSetProvisioningStatus DescribeRegion",
      "DescribeTrustedTokenIssuer DetachCustomerManagedPolicyReferenceFromPermissionSet",
      "DetachManagedPolicyFromPermissionSet GetApplicationAccessScope",
      "GetApplicationAssignmentConfiguration GetApplicationAuthenticationMethod",
      "GetApplicationGrant GetApplicationSessionConfiguration GetInlinePolicyForPermissionSet",
      "GetPermissionsBoundaryForPermissionSet GetRoleCredentials",
      "ListAccountAssignmentCreationStatus ListAccountAssignmentDeletionStatus",
      "ListAccountAssignments ListAccountAssignmentsForPrincipal ListAccountRoles ListAccounts",
      "ListAccountsForProvisionedPermissionSet ListApplicationAccessScopes",
      "ListApplicationAssignments ListApplicationAssignmentsForPrincipal",
      "ListApplicationAuthenticationMethods ListApplicationGrants ListApplicationProviders",
      "ListApplications ListCustomerManagedPolicyReferencesInPermissionSet ListInstances",
      "ListManagedPoliciesInPermissionSet ListPermissionSetProvisioningStatus",
      "ListPermissionSets ListPermissionSetsProvisionedToAccount ListRegions",
      "ListTagsForResource ListTrustedTokenIssuers Logout ProvisionPermissionSet",
      "PutApplicationAccessScope PutApplicationAssignmentConfiguration",
      "PutApplicationAuthenticationMethod PutApplicationGrant",
      "PutApplicationSessionConfiguration PutInlinePolicyToPermissionSet",
      "PutPermissionsBoundaryToPermissionSet RemoveRegion TagResource UntagResource",
      "UpdateApplication UpdateInstance UpdateInstanceAccessControlAttributeConfiguration",
      "UpdatePermissionSet UpdateTrustedTokenIssuer"]),
    ("sso-oauth", ["CreateToken CreateTokenWithIAM RegisterClient StartDeviceAuthorization"]),
    ("states", [
      "CreateActivity CreateStateMachine CreateStateMachineAlias DeleteActivity",
      "DeleteStateMachine DeleteStateMachineAlias DeleteStateMachineVersion DescribeActivity",
      "DescribeExecution DescribeMapRun DescribeStateMachine DescribeStateMachineAlias",
      "DescribeStateMachineForExecution GetActivityTask GetExecutionHistory ListActivities",
      "ListExecutions ListMapRuns ListStateMachineAliases ListStateMachineVersions",
      "ListStateMachines ListTagsForResource PublishStateMachineVersion RedriveExecution",
      "SendTaskFailure SendTaskHeartbeat SendTaskSuccess StartExecution StartSyncExecution",
      "StopExecution TagResource TestState UntagResource UpdateMapRun UpdateStateMachine",
      "UpdateStateMachineAlias ValidateStateMachineDefinition"]),
    ("storagegateway", [
      "ActivateGateway AddCache AddTagsToResource AddUploadBuffer AddWorkingStorage",
      "AssignTapePool AssociateFileSystem AttachVolume CancelArchival CancelCacheReport",
      "CancelRetrieval CreateCachediSCSIVolume CreateNFSFileShare CreateSMBFileShare",
      "CreateSnapshot CreateSnapshotFromVolumeRecoveryPoint CreateStorediSCSIVolume",
      "CreateTapePool CreateTapeWithBarcode CreateTapes DeleteAutomaticTapeCreationPolicy",
      "DeleteBandwidthRateLimit DeleteCacheReport DeleteChapCredentials DeleteFileShare",
      "DeleteGateway DeleteSnapshotSchedule DeleteTape DeleteTapeArchive DeleteTapePool",
      "DeleteVolume DescribeAvailabilityMonitorTest DescribeBandwidthRateLimit",
      "DescribeBandwidthRateLimitSchedule DescribeCache DescribeCacheReport",
      "DescribeCachediSCSIVolumes DescribeChapCredentials DescribeFileSystemAssociations",
      "DescribeGatewayInformation DescribeMaintenanceStartTime DescribeNFSFileShares",
      "DescribeSMBFileShares DescribeSMBSettings DescribeSnapshotSchedule",
      "DescribeStorediSCSIVolumes DescribeTapeArchives DescribeTapeRecoveryPoints DescribeTapes",
      "DescribeUploadBuffer DescribeVTLDevices DescribeWorkingStorage DetachVolume",
      "DisableGateway DisassociateFileSystem EvictFilesFailingUpload JoinDomain",
      "ListAutomaticTapeCreationPolicies ListCacheReports ListFileShares",
      "ListFileSystemAssociations ListGateways ListLocalDisks ListTagsForResource ListTapePools",
      "ListTapes ListVolumeInitiators ListVolumeRecoveryPoints ListVolumes NotifyWhenUploaded",
      "RefreshCache RemoveTagsFromResource ResetCache RetrieveTapeArchive",
      "RetrieveTapeRecoveryPoint SetLocalConsolePassword SetSMBGuestPassword ShutdownGateway",
      "StartAvailabilityMonitorTest StartCacheReport StartGateway",
      "UpdateAutomaticTapeCreationPolicy UpdateBandwidthRateLimit",
      "UpdateBandwidthRateLimitSchedule UpdateChapCredentials UpdateFileSystemAssociation",
      "UpdateGatewayInformation UpdateGatewaySoftwareNow UpdateMaintenanceStartTime",
      "UpdateNFSFileShare UpdateSMBFileShare UpdateSMBFileShareVisibility UpdateSMBLocalGroups",
      "UpdateSMBSecurityStrategy UpdateSnapshotSchedule UpdateVTLDeviceType"]),
    ("sts", [
      "AssumeRole AssumeRoleWithSAML AssumeRoleWithWebIdentity AssumeRoot",
      "DecodeAuthorizationMessage GetAccessKeyInfo GetCallerIdentity GetDelegatedAccessToken",
      "GetFederationToken GetSessionToken GetWebIdentityToken SetContext SetSourceIdentity",
      "TagSession"]),
    ("support", [
      "AddAttachmentsToSet AddCommunicationToCase CreateCase DescribeAttachment DescribeCases",
      "DescribeCommunications DescribeCreateCaseOptions DescribeServices DescribeSeverityLevels",
      "DescribeSupportedLanguages DescribeTrustedAdvisorCheckRefreshStatuses",
      "DescribeTrustedAdvisorCheckResult DescribeTrustedAdvisorCheckSummaries",
      "DescribeTrustedAdvisorChecks RefreshTrustedAdvisorCheck ResolveCase"]),
    ("supportapp", [
      "CreateSlackChannelConfiguration DeleteAccountAlias DeleteSlackChannelConfiguration",
      "DeleteSlackWorkspaceConfiguration GetAccountAlias ListSlackChannelConfigurations",
      "ListSlackWorkspaceConfigurations PutAccountAlias RegisterSlackWorkspaceForOrganization",
      "UpdateSlackChannelConfiguration"]),
    ("sustainability", [
      "GetEstimatedCarbonEmissions GetEstimatedCarbonEmissionsDimensionValues"]),
    ("swf", [
      "CountClosedWorkflowExecutions CountOpenWorkflowExecutions CountPendingActivityTasks",
      "CountPendingDecisionTasks DeleteActivityType DeleteWorkflowType DeprecateActivityType",
      "DeprecateDomain DeprecateWorkflowType DescribeActivityType DescribeDomain",
      "DescribeWorkflowExecution DescribeWorkflowType GetWorkflowExecutionHistory",
      "ListActivityTypes ListClosedWorkflowExecutions ListDomains ListOpenWorkflowExecutions",
      "ListTagsForResource ListWorkflowTypes PollForActivityTask PollForDecisionTask",
      "RecordActivityTaskHeartbeat RegisterActivityType RegisterDomain RegisterWorkflowType",
      "RequestCancelWorkflowExecution RespondActivityTaskCanceled RespondActivityTaskCompleted",
      "RespondActivityTaskFailed RespondDecisionTaskCompleted SignalWorkflowExecution",
      "StartWorkflowExecution TagResource TerminateWorkflowExecution UndeprecateActivityType",
      "UndeprecateDomain UndeprecateWorkflowType UntagResource"]),
    ("synthetics", [
      "AssociateResource CreateCanary CreateGroup DeleteCanary DeleteGroup DescribeCanaries",
      "DescribeCanariesLastRun DescribeRuntimeVersions DisassociateResource GetCanary",
      "GetCanaryRuns GetGroup ListAssociatedGroups ListGroupResources ListGroups",
      "ListTagsForResource StartCanary StartCanaryDryRun StopCanary TagResource UntagResource",
      "UpdateCanary"])]

end StackAudit.Catalog
