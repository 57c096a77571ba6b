/-!
# Actions of services: F to L

The privileges of the services whose names begin with `f` to `l`.
-/

namespace StackAudit.Catalog

/-- The services from `f` on, each with lines of privileges between blanks. -/
def servicesFToL : List (String × List String) :=
  [("finspace", [
      "CreateEnvironment CreateKxChangeset CreateKxCluster CreateKxDatabase CreateKxDataview",
      "CreateKxEnvironment CreateKxScalingGroup CreateKxUser CreateKxVolume DeleteEnvironment",
      "DeleteKxCluster DeleteKxClusterNode DeleteKxDatabase DeleteKxDataview",
      "DeleteKxEnvironment DeleteKxScalingGroup DeleteKxUser DeleteKxVolume GetEnvironment",
      "GetKxChangeset GetKxCluster GetKxConnectionString GetKxDatabase GetKxDataview",
      "GetKxEnvironment GetKxScalingGroup GetKxUser GetKxVolume ListEnvironments",
      "ListKxChangesets ListKxClusterNodes ListKxClusters ListKxDatabases ListKxDataviews",
      "ListKxEnvironments ListKxScalingGroups ListKxUsers ListKxVolumes ListTagsForResource",
      "TagResource UntagResource UpdateEnvironment UpdateKxClusterCodeConfiguration",
      "UpdateKxClusterDatabases UpdateKxDatabase UpdateKxDataview UpdateKxEnvironment",
      "UpdateKxEnvironmentNetwork UpdateKxUser UpdateKxVolume"]),
    ("finspace-api", [
      "AssociateUserToPermissionGroup CreateChangeset CreateDataView CreateDataset",
      "CreatePermissionGroup CreateUser DeleteDataset DeletePermissionGroup DisableUser",
      "DisassociateUserFromPermissionGroup EnableUser GetChangeset GetDataView GetDataset",
      "GetExternalDataViewAccessDetails GetPermissionGroup GetProgrammaticAccessCredentials",
      "GetUser GetWorkingLocation ListChangesets ListDataViews ListDatasets",
      "ListPermissionGroups ListPermissionGroupsByUser ListUsers ListUsersByPermissionGroup",
      "ResetUserPassword UpdateChangeset UpdateDataset UpdatePermissionGroup UpdateUser"]),
    ("firehose", [
      "CreateDeliveryStream DeleteDeliveryStream DescribeDeliveryStream ListDeliveryStreams",
      "ListTagsForDeliveryStream PutRecord PutRecordBatch StartDeliveryStreamEncryption",
      "StopDeliveryStreamEncryption TagDeliveryStream UntagDeliveryStream UpdateDestination"]),
    ("fis", [
      "CreateExperimentTemplate CreateTargetAccountConfiguration DeleteExperimentTemplate",
      "DeleteTargetAccountConfiguration GetAction GetExperiment",
      "GetExperimentTargetAccountConfiguration GetExperimentTemplate GetSafetyLever",
      "GetTargetAccountConfiguration GetTargetResourceType ListActions",
      "ListExperimentResolvedTargets ListExperimentTargetAccountConfigurations",
      "ListExperimentTemplates ListExperiments ListTagsForResource",
      "ListTargetAccountConfigurations ListTargetResourceTypes StartExperiment StopExperiment",
      "TagResource UntagResource UpdateExperimentTemplate UpdateSafetyLeverState",
      "UpdateTargetAccountConfiguration"]),
    ("fms", [
      "AssociateAdminAccount AssociateThirdPartyFirewall BatchAssociateResource",
      "BatchDisassociateResource DeleteAppsList DeleteNotificationChannel DeletePolicy",
      "DeleteProtocolsList DeleteResourceSet DisassociateAdminAccount",
      "DisassociateThirdPartyFirewall GetAdminAccount GetAdminScope GetAppsList",
      "GetComplianceDetail GetNotificationChannel GetPolicy GetProtectionStatus",
      "GetProtocolsList GetResourceSet GetThirdPartyFirewallAssociationStatus",
      "GetViolationDetails ListAdminAccountsForOrganization ListAdminsManagingAccount",
      "ListAppsLists ListComplianceStatus ListDiscoveredResources ListMemberAccounts",
      "ListPolicies ListProtocolsLists ListResourceSetResources ListResourceSets",
      "ListTagsForResource ListThirdPartyFirewallFirewallPolicies PutAdminAccount PutAppsList",
      "PutNotificationChannel PutPolicy PutProtocolsList PutResourceSet TagResource",
      "UntagResource"]),
    ("forecast", [
      "CreateAutoPredictor CreateDataset CreateDatasetGroup CreateDatasetImportJob",
      "CreateExplainability CreateExplainabilityExport CreateForecast CreateForecastExportJob",
      "CreateMonitor CreatePredictor CreatePredictorBacktestExportJob CreateWhatIfAnalysis",
      "CreateWhatIfForecast CreateWhatIfForecastExport DeleteDataset DeleteDatasetGroup",
      "DeleteDatasetImportJob DeleteExplainability DeleteExplainabilityExport DeleteForecast",
      "DeleteForecastExportJob DeleteMonitor DeletePredictor DeletePredictorBacktestExportJob",
      "DeleteResourceTree DeleteWhatIfAnalysis DeleteWhatIfForecast DeleteWhatIfForecastExport",
      "DescribeAutoPredictor DescribeDataset DescribeDatasetGroup DescribeDatasetImportJob",
      "DescribeExplainability DescribeExplainabilityExport DescribeForecast",
      "DescribeForecastExportJob DescribeMonitor DescribePredictor",
      "DescribePredictorBacktestExportJob DescribeWhatIfAnalysis DescribeWhatIfForecast",
      "DescribeWhatIfForecastExport GetAccuracyMetrics ListDatasetGroups ListDatasetImportJobs",
      "ListDatasets ListExplainabilities ListExplainabilityExports ListForecastExportJobs",
      "ListForecasts ListMonitorEvaluations ListMonitors ListPredictorBacktestExportJobs",
      "ListPredictors ListTagsForResource ListWhatIfAnalyses ListWhatIfForecastExports",
      "ListWhatIfForecasts QueryForecast QueryWhatIfForecast ResumeResource StopResource",
      "TagResource UntagResource UpdateDatasetGroup"]),
    ("frauddetector", [
      "BatchCreateVariable BatchGetVariable CancelBatchImportJob CancelBatchPredictionJob",
      "CreateBatchImportJob CreateBatchPredictionJob CreateDetectorVersion CreateList",
      "CreateModel CreateModelVersion CreateRule CreateVariable DeleteBatchImportJob",
      "DeleteBatchPredictionJob DeleteDetector DeleteDetectorVersion DeleteEntityType",
      "DeleteEvent DeleteEventType DeleteEventsByEventType DeleteExternalModel DeleteLabel",
      "DeleteList DeleteModel DeleteModelVersion DeleteOutcome DeleteRule DeleteVariable",
      "DescribeDetector DescribeModelVersions GetBatchImportJobs GetBatchPredictionJobs",
      "GetDeleteEventsByEventTypeStatus GetDetectorVersion GetDetectors GetEntityTypes GetEvent",
      "GetEventPrediction GetEventPredictionMetadata GetEventTypes GetExternalModels",
      "GetKMSEncryptionKey GetLabels GetListElements GetListsMetadata GetModelVersion GetModels",
      "GetOutcomes GetRules GetVariables ListEventPredictions ListTagsForResource PutDetector",
      "PutEntityType PutEventType PutExternalModel PutKMSEncryptionKey PutLabel PutOutcome",
      "SendEvent TagResource UntagResource UpdateDetectorVersion UpdateDetectorVersionMetadata",
      "UpdateDetectorVersionStatus UpdateEventLabel UpdateList UpdateModel UpdateModelVersion",
      "UpdateModelVersionStatus UpdateRuleMetadata UpdateRuleVersion UpdateVariable"]),
    ("freetier", [
      "GetAccountActivity GetAccountPlanState GetFreeTierUsage ListAccountActivities",
      "UpgradeAccountPlan"]),
    ("fsx", [
      "AssociateFileSystemAliases CancelDataRepositoryTask CopyBackup",
      "CopySnapshotAndUpdateVolume CreateAndAttachS3AccessPoint CreateBackup",
      "CreateDataRepositoryAssociation CreateDataRepositoryTask CreateFileCache",
      "CreateFileSystem CreateFileSystemFromBackup CreateSnapshot CreateStorageVirtualMachine",
      "CreateVolume CreateVolumeFromBackup DeleteBackup DeleteDataRepositoryAssociation",
      "DeleteFileCache DeleteFileSystem DeleteSnapshot DeleteStorageVirtualMachine DeleteVolume",
      "DescribeBackups DescribeDataRepositoryAssociations DescribeDataRepositoryTasks",
      "DescribeFileCaches DescribeFileSystemAliases DescribeFileSystems",
      "DescribeS3AccessPointAttachments DescribeSharedVpcConfiguration DescribeSnapshots",
      "DescribeStorageVirtualMachines DescribeVolumes DetachAndDeleteS3AccessPoint",
      "DisassociateFileSystemAliases ListTagsForResource ReleaseFileSystemNfsV3Locks",
      "RestoreVolumeFromSnapshot StartMisconfiguredStateRecovery TagResource UntagResource",
      "UpdateDataRepositoryAssociation UpdateFileCache UpdateFileSystem",
      "UpdateSharedVpcConfiguration UpdateSnapshot UpdateStorageVirtualMachine UpdateVolume"]),
    ("gamelift", [
      "AcceptMatch ClaimGameServer CreateAlias CreateBuild CreateContainerFleet",
      "CreateContainerGroupDefinition CreateFleet CreateFleetLocations CreateGameServerGroup",
      "CreateGameSession CreateGameSessionQueue CreateLocation CreateMatchmakingConfiguration",
      "CreateMatchmakingRuleSet CreatePlayerSession CreatePlayerSessions CreateScript",
      "CreateVpcPeeringAuthorization CreateVpcPeeringConnection DeleteAlias DeleteBuild",
      "DeleteContainerFleet DeleteContainerGroupDefinition DeleteFleet DeleteFleetLocations",
      "DeleteGameServerGroup DeleteGameSessionQueue DeleteLocation",
      "DeleteMatchmakingConfiguration DeleteMatchmakingRuleSet DeleteScalingPolicy DeleteScript",
      "DeleteVpcPeeringAuthorization DeleteVpcPeeringConnection DeregisterCompute",
      "DeregisterGameServer DescribeAlias DescribeBuild DescribeCompute DescribeContainerFleet",
      "DescribeContainerGroupDefinition DescribeContainerGroupPortMappings",
      "DescribeEC2InstanceLimits DescribeFleetAttributes DescribeFleetCapacity",
      "DescribeFleetDeployment DescribeFleetEvents DescribeFleetLocationAttributes",
      "DescribeFleetLocationCapacity DescribeFleetLocationUtilization DescribeFleetPortSettings",
      "DescribeFleetUtilization DescribeGameServer DescribeGameServerGroup",
      "DescribeGameServerInstances DescribeGameSessionDetails DescribeGameSessionPlacement",
      "DescribeGameSessionQueues DescribeGameSessions DescribeInstances DescribeMatchmaking",
      "DescribeMatchmakingConfigurations DescribeMatchmakingRuleSets DescribePlayerSessions",
      "DescribeRuntimeConfiguration DescribeScalingPolicies DescribeScript",
      "DescribeVpcPeeringAuthorizations DescribeVpcPeeringConnections GetComputeAccess",
      "GetComputeAuthToken GetGameSessionLogUrl GetInstanceAccess GetPlayerConnectionDetails",
      "ListAliases ListBuilds ListCompute ListContainerFleets",
      "ListContainerGroupDefinitionVersions ListContainerGroupDefinitions ListFleetDeployments",
      "ListFleets ListGameServerGroups ListGameServers ListLocations ListScripts",
      "ListTagsForResource PutScalingPolicy RegisterCompute RegisterGameServer",
      "RequestUploadCredentials ResolveAlias ResumeGameServerGroup SearchGameSessions",
      "StartFleetActions StartGameSessionPlacement StartMatchBackfill StartMatchmaking",
      "StopFleetActions StopGameSessionPlacement StopMatchmaking SuspendGameServerGroup",
      "TagResource TerminateGameSession UntagResource UpdateAlias UpdateBuild",
      "UpdateContainerFleet UpdateContainerGroupDefinition UpdateFleetAttributes",
      "UpdateFleetCapacity UpdateFleetPortSettings UpdateGameServer UpdateGameServerGroup",
      "UpdateGameSession UpdateGameSessionQueue UpdateMatchmakingConfiguration",
      "UpdateRuntimeConfiguration UpdateScript ValidateMatchmakingRuleSet"]),
    ("gameliftstreams", [
      "AddStreamGroupLocations AssociateApplications CreateApplication CreateStreamGroup",
      "CreateStreamSessionConnection DeleteApplication DeleteStreamGroup",
      "DisassociateApplications ExportStreamSessionFiles GetApplication GetStreamGroup",
      "GetStreamSession ListApplications ListStreamGroups ListStreamSessions",
      "ListStreamSessionsByAccount ListTagsForResource RemoveStreamGroupLocations",
      "StartStreamSession TagResource TerminateStreamSession UntagResource UpdateApplication",
      "UpdateStreamGroup"]),
    ("geo", [
      "AssociateTrackerConsumer BatchDeleteDevicePositionHistory BatchDeleteGeofence",
      "BatchEvaluateGeofences BatchGetDevicePosition BatchPutGeofence BatchUpdateDevicePosition",
      "CalculateRoute CalculateRouteMatrix CancelJob CreateGeofenceCollection CreateKey",
      "CreateMap CreatePlaceIndex CreateRouteCalculator CreateTracker DeleteGeofenceCollection",
      "DeleteKey DeleteMap DeletePlaceIndex DeleteRouteCalculator DeleteTracker",
      "DescribeGeofenceCollection DescribeKey DescribeMap DescribePlaceIndex",
      "DescribeRouteCalculator DescribeTracker DisassociateTrackerConsumer",
      "ForecastGeofenceEvents GetDevicePosition GetDevicePositionHistory GetGeofence GetJob",
      "GetMapGlyphs GetMapSprites GetMapStyleDescriptor GetMapTile GetPlace ListDevicePositions",
      "ListGeofenceCollections ListGeofences ListJobs ListKeys ListMaps ListPlaceIndexes",
      "ListRouteCalculators ListTagsForResource ListTrackerConsumers ListTrackers PutGeofence",
      "SearchPlaceIndexForPosition SearchPlaceIndexForSuggestions SearchPlaceIndexForText",
      "StartJob TagResource UntagResource UpdateGeofenceCollection UpdateKey UpdateMap",
      "UpdatePlaceIndex UpdateRouteCalculator UpdateTracker VerifyDevicePosition"]),
    ("geo-maps", ["GetGlyphs GetSprites GetStaticMap GetStyleDescriptor GetTile"]),
    ("geo-places", [
      "Autocomplete Geocode GetPlace ReverseGeocode SearchNearby SearchText Suggest"]),
    ("geo-routes", [
      "CalculateIsolines CalculateRouteMatrix CalculateRoutes OptimizeWaypoints SnapToRoads"]),
    ("glacier", [
      "AbortMultipartUpload AbortVaultLock AddTagsToVault CompleteMultipartUpload",
      "CompleteVaultLock CreateVault DeleteArchive DeleteVault DeleteVaultAccessPolicy",
      "DeleteVaultNotifications DescribeJob DescribeVault GetDataRetrievalPolicy GetJobOutput",
      "GetVaultAccessPolicy GetVaultLock GetVaultNotifications InitiateJob",
      "InitiateMultipartUpload InitiateVaultLock ListJobs ListMultipartUploads ListParts",
      "ListProvisionedCapacity ListTagsForVault ListVaults PurchaseProvisionedCapacity",
      "RemoveTagsFromVault SetDataRetrievalPolicy SetVaultAccessPolicy SetVaultNotifications",
      "UploadArchive UploadMultipartPart"]),
    ("globalaccelerator", [
      "AddCustomRoutingEndpoints AddEndpoints AdvertiseByoipCidr AllowCustomRoutingTraffic",
      "CreateAccelerator CreateCrossAccountAttachment CreateCustomRoutingAccelerator",
      "CreateCustomRoutingEndpointGroup CreateCustomRoutingListener CreateEndpointGroup",
      "CreateListener DeleteAccelerator DeleteCrossAccountAttachment",
      "DeleteCustomRoutingAccelerator DeleteCustomRoutingEndpointGroup",
      "DeleteCustomRoutingListener DeleteEndpointGroup DeleteListener DenyCustomRoutingTraffic",
      "DeprovisionByoipCidr DescribeAccelerator DescribeAcceleratorAttributes",
      "DescribeCrossAccountAttachment DescribeCustomRoutingAccelerator",
      "DescribeCustomRoutingAcceleratorAttributes DescribeCustomRoutingEndpointGroup",
      "DescribeCustomRoutingListener DescribeEndpointGroup DescribeListener ListAccelerators",
      "ListByoipCidrs ListCrossAccountAttachments ListCrossAccountResourceAccounts",
      "ListCrossAccountResources ListCustomRoutingAccelerators ListCustomRoutingEndpointGroups",
      "ListCustomRoutingListeners ListCustomRoutingPortMappings",
      "ListCustomRoutingPortMappingsByDestination ListEndpointGroups ListListeners",
      "ListTagsForResource ProvisionByoipCidr RemoveCustomRoutingEndpoints RemoveEndpoints",
      "TagResource UntagResource UpdateAccelerator UpdateAcceleratorAttributes",
      "UpdateCrossAccountAttachment UpdateCustomRoutingAccelerator",
      "UpdateCustomRoutingAcceleratorAttributes UpdateCustomRoutingListener UpdateEndpointGroup",
      "UpdateListener WithdrawByoipCidr"]),
    ("glue", [
      "BatchCreatePartition BatchDeleteConnection BatchDeletePartition BatchDeleteTable",
      "BatchDeleteTableVersion BatchGetBlueprints BatchGetCrawlers BatchGetCustomEntityTypes",
      "BatchGetDataQualityResult BatchGetDevEndpoints BatchGetJobs BatchGetPartition",
      "BatchGetTableOptimizer BatchGetTriggers BatchGetWorkflows",
      "BatchPutDataQualityStatisticAnnotation BatchStopJobRun BatchUpdatePartition",
      "CancelDataQualityRuleRecommendationRun CancelDataQualityRulesetEvaluationRun",
      "CancelMLTaskRun CancelStatement CheckSchemaVersionValidity CreateBlueprint CreateCatalog",
      "CreateClassifier CreateColumnStatisticsTaskSettings CreateConnection CreateCrawler",
      "CreateCustomEntityType CreateDataQualityRuleset CreateDatabase CreateDevEndpoint",
      "CreateGlueIdentityCenterConfiguration CreateIntegration",
      "CreateIntegrationResourceProperty CreateIntegrationTableProperties CreateJob",
      "CreateMLTransform CreatePartition CreatePartitionIndex CreateRegistry CreateSchema",
      "CreateScript CreateSecurityConfiguration CreateSession CreateTable CreateTableOptimizer",
      "CreateTrigger CreateUsageProfile CreateUserDefinedFunction CreateWorkflow",
      "DeleteBlueprint DeleteCatalog DeleteClassifier DeleteColumnStatisticsForPartition",
      "DeleteColumnStatisticsForTable DeleteColumnStatisticsTaskSettings DeleteConnection",
      "DeleteConnectionType DeleteCrawler DeleteCustomEntityType DeleteDataQualityRuleset",
      "DeleteDatabase DeleteDevEndpoint DeleteGlueIdentityCenterConfiguration DeleteIntegration",
      "DeleteIntegrationResourceProperty DeleteIntegrationTableProperties DeleteJob",
      "DeleteMLTransform DeletePartition DeletePartitionIndex DeleteRegistry",
      "DeleteResourcePolicy DeleteSchema DeleteSchemaVersions DeleteSecurityConfiguration",
      "DeleteSession DeleteTable DeleteTableOptimizer DeleteTableVersion DeleteTrigger",
      "DeleteUsageProfile DeleteUserDefinedFunction DeleteWorkflow DescribeConnectionType",
      "DescribeEntity DescribeInboundIntegrations DescribeIntegrations GetBlueprint",
      "GetBlueprintRun GetBlueprintRuns GetCatalog GetCatalogImportStatus GetCatalogs",
      "GetClassifier GetClassifiers GetColumnStatisticsForPartition GetColumnStatisticsForTable",
      "GetColumnStatisticsTaskRun GetColumnStatisticsTaskRuns GetColumnStatisticsTaskSettings",
      "GetConnection GetConnections GetCrawler GetCrawlerMetrics GetCrawlers",
      "GetCustomEntityType GetDataCatalogEncryptionSettings GetDataQualityModel",
      "GetDataQualityModelResult GetDataQualityResult GetDataQualityRuleRecommendationRun",
      "GetDataQualityRuleset GetDataQualityRulesetEvaluationRun GetDatabase GetDatabases",
      "GetDataflowGraph GetDevEndpoint GetDevEndpoints GetEntityRecords",
      "GetGlueIdentityCenterConfiguration GetIntegrationResourceProperty",
      "GetIntegrationTableProperties GetJob GetJobBookmark GetJobRun GetJobRuns GetJobs",
      "GetMLTaskRun GetMLTaskRuns GetMLTransform GetMLTransforms GetMapping",
      "GetMaterializedViewRefreshTaskRun GetPartition GetPartitionIndexes GetPartitions GetPlan",
      "GetRegistry GetResourcePolicies GetResourcePolicy GetSchema GetSchemaByDefinition",
      "GetSchemaVersion GetSchemaVersionsDiff GetSecurityConfiguration",
      "GetSecurityConfigurations GetSession GetStatement GetTable GetTableOptimizer",
      "GetTableVersion GetTableVersions GetTables GetTags GetTrigger GetTriggers",
      "GetUnfilteredPartitionMetadata GetUnfilteredPartitionsMetadata",
      "GetUnfilteredTableMetadata GetUsageProfile GetUserDefinedFunction",
      "GetUserDefinedFunctions GetWorkflow GetWorkflowRun GetWorkflowRunProperties",
      "GetWorkflowRuns ImportCatalogToGlue ListBlueprints ListColumnStatisticsTaskRuns",
      "ListConnectionTypes ListCrawlers ListCrawls ListCustomEntityTypes ListDataQualityResults",
      "ListDataQualityRuleRecommendationRuns ListDataQualityRulesetEvaluationRuns",
      "ListDataQualityRulesets ListDataQualityStatisticAnnotations ListDataQualityStatistics",
      "ListDevEndpoints ListEntities ListIntegrationResourceProperties ListJobs",
      "ListMLTransforms ListMaterializedViewRefreshTaskRuns ListRegistries ListSchemaVersions",
      "ListSchemas ListSessions ListStatements ListTableOptimizerRuns ListTriggers",
      "ListUsageProfiles ListWorkflows ModifyIntegration PutDataCatalogEncryptionSettings",
      "PutDataQualityProfileAnnotation PutResourcePolicy PutSchemaVersionMetadata",
      "PutWorkflowRunProperties QuerySchemaVersionMetadata RegisterConnectionType",
      "RegisterSchemaVersion RemoveSchemaVersionMetadata ResetJobBookmark ResumeWorkflowRun",
      "RunStatement SearchTables StartBlueprintRun StartColumnStatisticsTaskRun",
      "StartColumnStatisticsTaskRunSchedule StartCrawler StartCrawlerSchedule",
      "StartDataQualityRuleRecommendationRun StartDataQualityRulesetEvaluationRun",
      "StartExportLabelsTaskRun StartImportLabelsTaskRun StartJobRun StartMLEvaluationTaskRun",
      "StartMLLabelingSetGenerationTaskRun StartMaterializedViewRefreshTaskRun StartTrigger",
      "StartWorkflowRun StopColumnStatisticsTaskRun StopColumnStatisticsTaskRunSchedule",
      "StopCrawler StopCrawlerSchedule StopMaterializedViewRefreshTaskRun StopSession",
      "StopTrigger StopWorkflowRun TagResource TestConnection UntagResource UpdateBlueprint",
      "UpdateCatalog UpdateClassifier UpdateColumnStatisticsForPartition",
      "UpdateColumnStatisticsForTable UpdateColumnStatisticsTaskSettings UpdateConnection",
      "UpdateCrawler UpdateCrawlerSchedule UpdateDataQualityRuleset UpdateDatabase",
      "UpdateDevEndpoint UpdateGlueIdentityCenterConfiguration",
      "UpdateIntegrationResourceProperty UpdateIntegrationTableProperties UpdateJob",
      "UpdateJobFromSourceControl UpdateMLTransform UpdatePartition UpdateRegistry UpdateSchema",
      "UpdateSourceControlFromJob UpdateTable UpdateTableOptimizer UpdateTrigger",
      "UpdateUsageProfile UpdateUserDefinedFunction UpdateWorkflow"]),
    ("grafana", [
      "AssociateLicense CreateWorkspace CreateWorkspaceApiKey CreateWorkspaceServiceAccount",
      "CreateWorkspaceServiceAccountToken DeleteWorkspace DeleteWorkspaceApiKey",
      "DeleteWorkspaceServiceAccount DeleteWorkspaceServiceAccountToken DescribeWorkspace",
      "DescribeWorkspaceAuthentication DescribeWorkspaceConfiguration DisassociateLicense",
      "ListPermissions ListTagsForResource ListVersions ListWorkspaceServiceAccountTokens",
      "ListWorkspaceServiceAccounts ListWorkspaces TagResource UntagResource UpdatePermissions",
      "UpdateWorkspace UpdateWorkspaceAuthentication UpdateWorkspaceConfiguration"]),
    ("greengrass", [
      "AssociateRoleToGroup AssociateServiceRoleToAccount",
      "BatchAssociateClientDeviceWithCoreDevice BatchDisassociateClientDeviceFromCoreDevice",
      "CancelDeployment CreateComponentVersion CreateConnectorDefinition",
      "CreateConnectorDefinitionVersion CreateCoreDefinition CreateCoreDefinitionVersion",
      "CreateDeployment CreateDeviceDefinition CreateDeviceDefinitionVersion",
      "CreateFunctionDefinition CreateFunctionDefinitionVersion CreateGroup",
      "CreateGroupCertificateAuthority CreateGroupVersion CreateLoggerDefinition",
      "CreateLoggerDefinitionVersion CreateResourceDefinition CreateResourceDefinitionVersion",
      "CreateSoftwareUpdateJob CreateSubscriptionDefinition CreateSubscriptionDefinitionVersion",
      "DeleteComponent DeleteConnectorDefinition DeleteCoreDefinition DeleteCoreDevice",
      "DeleteDeployment DeleteDeviceDefinition DeleteFunctionDefinition DeleteGroup",
      "DeleteLoggerDefinition DeleteResourceDefinition DeleteSubscriptionDefinition",
      "DescribeComponent DisassociateRoleFromGroup DisassociateServiceRoleFromAccount",
      "GetAssociatedRole GetBulkDeploymentStatus GetComponent GetComponentVersionArtifact",
      "GetConnectivityInfo GetConnectorDefinition GetConnectorDefinitionVersion",
      "GetCoreDefinition GetCoreDefinitionVersion GetCoreDevice GetDeployment",
      "GetDeploymentStatus GetDeviceDefinition GetDeviceDefinitionVersion GetFunctionDefinition",
      "GetFunctionDefinitionVersion GetGroup GetGroupCertificateAuthority",
      "GetGroupCertificateConfiguration GetGroupVersion GetLoggerDefinition",
      "GetLoggerDefinitionVersion GetResourceDefinition GetResourceDefinitionVersion",
      "GetServiceRoleForAccount GetSubscriptionDefinition GetSubscriptionDefinitionVersion",
      "GetThingRuntimeConfiguration ListBulkDeploymentDetailedReports ListBulkDeployments",
      "ListClientDevicesAssociatedWithCoreDevice ListComponentVersions ListComponents",
      "ListConnectorDefinitionVersions ListConnectorDefinitions ListCoreDefinitionVersions",
      "ListCoreDefinitions ListCoreDevices ListDeployments ListDeviceDefinitionVersions",
      "ListDeviceDefinitions ListEffectiveDeployments ListFunctionDefinitionVersions",
      "ListFunctionDefinitions ListGroupCertificateAuthorities ListGroupVersions ListGroups",
      "ListInstalledComponents ListLoggerDefinitionVersions ListLoggerDefinitions",
      "ListResourceDefinitionVersions ListResourceDefinitions",
      "ListSubscriptionDefinitionVersions ListSubscriptionDefinitions ListTagsForResource",
      "ResetDeployments ResolveComponentCandidates StartBulkDeployment StopBulkDeployment",
      "TagResource UntagResource UpdateConnectivityInfo UpdateConnectorDefinition",
      "UpdateCoreDefinition UpdateDeviceDefinition UpdateFunctionDefinition UpdateGroup",
      "UpdateGroupCertificateConfiguration UpdateLoggerDefinition UpdateResourceDefinition",
      "UpdateSubscriptionDefinition UpdateThingRuntimeConfiguration"]),
    ("groundstation", [
      "CancelContact CreateConfig CreateDataflowEndpointGroup CreateDataflowEndpointGroupV2",
      "CreateEphemeris CreateMissionProfile DeleteConfig DeleteDataflowEndpointGroup",
      "DeleteEphemeris DeleteMissionProfile DescribeContact DescribeContactVersion",
      "DescribeEphemeris GetAgentConfiguration GetAgentTaskResponseUrl GetConfig",
      "GetDataflowEndpointGroup GetMinuteUsage GetMissionProfile GetSatellite ListAntennas",
      "ListConfigs ListContactVersions ListContacts ListDataflowEndpointGroups ListEphemerides",
      "ListGroundStationReservations ListGroundStations ListMissionProfiles ListSatellites",
      "ListTagsForResource RegisterAgent ReserveContact TagResource UntagResource",
      "UpdateAgentStatus UpdateConfig UpdateContact UpdateEphemeris UpdateMissionProfile"]),
    ("guardduty", [
      "AcceptAdministratorInvitation AcceptInvitation ArchiveFindings CreateDetector",
      "CreateFilter CreateIPSet CreateMalwareProtectionPlan CreateMembers",
      "CreatePublishingDestination CreateSampleFindings CreateThreatEntitySet",
      "CreateThreatIntelSet CreateTrustedEntitySet DeclineInvitations DeleteDetector",
      "DeleteFilter DeleteIPSet DeleteInvitations DeleteMalwareProtectionPlan DeleteMembers",
      "DeletePublishingDestination DeleteThreatEntitySet DeleteThreatIntelSet",
      "DeleteTrustedEntitySet DescribeMalwareScans DescribeOrganizationConfiguration",
      "DescribePublishingDestination DisableOrganizationAdminAccount",
      "DisassociateFromAdministratorAccount DisassociateFromMasterAccount DisassociateMembers",
      "EnableOrganizationAdminAccount GetAdministratorAccount GetCoverageStatistics GetDetector",
      "GetFilter GetFindings GetFindingsStatistics GetIPSet GetInvitationsCount",
      "GetMalwareProtectionPlan GetMalwareScan GetMalwareScanSettings GetMasterAccount",
      "GetMemberDetectors GetMembers GetOrganizationStatistics GetRemainingFreeTrialDays",
      "GetThreatEntitySet GetThreatIntelSet GetTrustedEntitySet GetUsageStatistics",
      "InviteMembers ListCoverage ListDetectors ListFilters ListFindings ListIPSets",
      "ListInvitations ListMalwareProtectionPlans ListMalwareScans ListMembers",
      "ListOrganizationAdminAccounts ListPublishingDestinations ListTagsForResource",
      "ListThreatEntitySets ListThreatIntelSets ListTrustedEntitySets SendObjectMalwareScan",
      "StartMalwareScan StartMonitoringMembers StopMonitoringMembers TagResource",
      "UnarchiveFindings UntagResource UpdateDetector UpdateFilter UpdateFindingsFeedback",
      "UpdateIPSet UpdateMalwareProtectionPlan UpdateMalwareScanSettings UpdateMemberDetectors",
      "UpdateOrganizationConfiguration UpdatePublishingDestination UpdateThreatEntitySet",
      "UpdateThreatIntelSet UpdateTrustedEntitySet"]),
    ("health", [
      "DescribeAffectedAccountsForOrganization DescribeAffectedEntities",
      "DescribeAffectedEntitiesForOrganization DescribeEntityAggregates",
      "DescribeEntityAggregatesForOrganization DescribeEventAggregates DescribeEventDetails",
      "DescribeEventDetailsForOrganization DescribeEventTypes DescribeEvents",
      "DescribeEventsForOrganization DescribeHealthServiceStatusForOrganization",
      "DisableHealthServiceAccessForOrganization EnableHealthServiceAccessForOrganization"]),
    ("health-agent", [
      "ActivateSubscription CreateDomain CreateSubscription DeactivateSubscription DeleteDomain",
      "GetDomain GetMedicalScribeListeningSession GetPatientInsightsJob GetSubscription",
      "ListDomains ListSubscriptions ListTagsForResource StartMedicalScribeListeningSession",
      "StartPatientInsightsJob TagResource UntagResource"]),
    ("healthlake", [
      "CreateFHIRDatastore DeleteFHIRDatastore DescribeFHIRDatastore DescribeFHIRExportJob",
      "DescribeFHIRImportJob ListFHIRDatastores ListFHIRExportJobs ListFHIRImportJobs",
      "ListTagsForResource StartFHIRExportJob StartFHIRImportJob TagResource UntagResource"]),
    ("iam", [
      "AcceptDelegationRequest AddClientIDToOpenIDConnectProvider AddRoleToInstanceProfile",
      "AddUserToGroup AssociateDelegationRequest AttachGroupPolicy AttachRolePolicy",
      "AttachUserPolicy ChangePassword CreateAccessKey CreateAccountAlias",
      "CreateDelegationRequest CreateGroup CreateInstanceProfile CreateLoginProfile",
      "CreateOpenIDConnectProvider CreatePolicy CreatePolicyVersion CreateRole",
      "CreateSAMLProvider CreateServiceLinkedRole CreateServiceSpecificCredential CreateUser",
      "CreateVirtualMFADevice DeactivateMFADevice DeleteAccessKey DeleteAccountAlias",
      "DeleteAccountPasswordPolicy DeleteGroup DeleteGroupPolicy DeleteInstanceProfile",
      "DeleteLoginProfile DeleteOpenIDConnectProvider DeletePolicy DeletePolicyVersion",
      "DeleteRole DeleteRolePermissionsBoundary DeleteRolePolicy DeleteSAMLProvider",
      "DeleteSSHPublicKey DeleteServerCertificate DeleteServiceLinkedRole",
      "DeleteServiceSpecificCredential DeleteSigningCertificate DeleteUser",
      "DeleteUserPermissionsBoundary DeleteUserPolicy DeleteVirtualMFADevice DetachGroupPolicy",
      "DetachRolePolicy DetachUserPolicy DisableOrganizationsRootCredentialsManagement",
      "DisableOrganizationsRootSessions DisableOutboundWebIdentityFederation EnableMFADevice",
      "EnableOrganizationsRootCredentialsManagement EnableOrganizationsRootSessions",
      "EnableOutboundWebIdentityFederation GenerateCredentialReport",
      "GenerateOrganizationsAccessReport GenerateServiceLastAccessedDetails",
      "GetAccessKeyLastUsed GetAccountAuthorizationDetails GetAccountPasswordPolicy",
      "GetAccountSummary GetContextKeysForCustomPolicy GetContextKeysForPrincipalPolicy",
      "GetCredentialReport GetDelegationRequest GetGroup GetGroupPolicy GetHumanReadableSummary",
      "GetInstanceProfile GetLoginProfile GetMFADevice GetOpenIDConnectProvider",
      "GetOrganizationsAccessReport GetOutboundWebIdentityFederationInfo GetPolicy",
      "GetPolicyVersion GetRole GetRolePolicy GetSAMLProvider GetSSHPublicKey",
      "GetServerCertificate GetServiceLastAccessedDetails",
      "GetServiceLastAccessedDetailsWithEntities GetServiceLinkedRoleDeletionStatus GetUser",
      "GetUserPolicy ListAccessKeys ListAccountAliases ListAttachedGroupPolicies",
      "ListAttachedRolePolicies ListAttachedUserPolicies ListDelegationRequests",
      "ListEntitiesForPolicy ListGroupPolicies ListGroups ListGroupsForUser",
      "ListInstanceProfileTags ListInstanceProfiles ListInstanceProfilesForRole",
      "ListMFADeviceTags ListMFADevices ListOpenIDConnectProviderTags",
      "ListOpenIDConnectProviders ListOrganizationsFeatures ListPolicies",
      "ListPoliciesGrantingServiceAccess ListPolicyTags ListPolicyVersions ListRolePolicies",
      "ListRoleTags ListRoles ListSAMLProviderTags ListSAMLProviders ListSSHPublicKeys",
      "ListServerCertificateTags ListServerCertificates ListServiceSpecificCredentials",
      "ListSigningCertificates ListUserPolicies ListUserTags ListUsers ListVirtualMFADevices",
      "PassRole PutGroupPolicy PutRolePermissionsBoundary PutRolePolicy",
      "PutUserPermissionsBoundary PutUserPolicy RejectDelegationRequest",
      "RemoveClientIDFromOpenIDConnectProvider RemoveRoleFromInstanceProfile",
      "RemoveUserFromGroup ResetServiceSpecificCredential ResyncMFADevice SendDelegationToken",
      "SetDefaultPolicyVersion SetSecurityTokenServicePreferences SimulateCustomPolicy",
      "SimulatePrincipalPolicy TagInstanceProfile TagMFADevice TagOpenIDConnectProvider",
      "TagPolicy TagRole TagSAMLProvider TagServerCertificate TagUser UntagInstanceProfile",
      "UntagMFADevice UntagOpenIDConnectProvider UntagPolicy UntagRole UntagSAMLProvider",
      "UntagServerCertificate UntagUser UpdateAccessKey UpdateAccountPasswordPolicy",
      "UpdateAssumeRolePolicy UpdateDelegationRequest UpdateGroup UpdateLoginProfile",
      "UpdateOpenIDConnectProviderThumbprint UpdateRole UpdateRoleDescription",
      "UpdateSAMLProvider UpdateSSHPublicKey UpdateServerCertificate",
      "UpdateServiceSpecificCredential UpdateSigningCertificate UpdateUser UploadSSHPublicKey",
      "UploadServerCertificate UploadSigningCertificate"]),
    ("identitystore", [
      "CreateGroup CreateGroupMembership CreateUser DeleteGroup DeleteGroupMembership",
      "DeleteUser DescribeGroup DescribeGroupMembership DescribeUser GetGroupId",
      "GetGroupMembershipId GetUserId IsMemberInGroups ListGroupMemberships",
      "ListGroupMembershipsForMember ListGroups ListUsers UpdateGroup UpdateUser"]),
    ("imagebuilder", [
      "CancelImageCreation CancelLifecycleExecution CreateComponent CreateContainerRecipe",
      "CreateDistributionConfiguration CreateImage CreateImagePipeline CreateImageRecipe",
      "CreateInfrastructureConfiguration CreateLifecyclePolicy CreateWorkflow DeleteComponent",
      "DeleteContainerRecipe DeleteDistributionConfiguration DeleteImage DeleteImagePipeline",
      "DeleteImageRecipe DeleteInfrastructureConfiguration DeleteLifecyclePolicy DeleteWorkflow",
      "DistributeImage GetComponent GetComponentPolicy GetContainerRecipe",
      "GetContainerRecipePolicy GetDistributionConfiguration GetImage GetImagePipeline",
      "GetImagePolicy GetImageRecipe GetImageRecipePolicy GetInfrastructureConfiguration",
      "GetLifecycleExecution GetLifecyclePolicy GetMarketplaceResource GetWorkflow",
      "GetWorkflowExecution GetWorkflowStepExecution ImportComponent ImportDiskImage",
      "ImportVmImage ListComponentBuildVersions ListComponents ListContainerRecipes",
      "ListDistributionConfigurations ListImageBuildVersions ListImagePackages",
      "ListImagePipelineImages ListImagePipelines ListImageRecipes",
      "ListImageScanFindingAggregations ListImageScanFindings ListImages",
      "ListInfrastructureConfigurations ListLifecycleExecutionResources ListLifecycleExecutions",
      "ListLifecyclePolicies ListTagsForResource ListWaitingWorkflowSteps",
      "ListWorkflowBuildVersions ListWorkflowExecutions ListWorkflowStepExecutions",
      "ListWorkflows PutComponentPolicy PutContainerRecipePolicy PutImagePolicy",
      "PutImageRecipePolicy RetryImage SendWorkflowStepAction StartImagePipelineExecution",
      "StartResourceStateUpdate TagResource UntagResource UpdateDistributionConfiguration",
      "UpdateImagePipeline UpdateInfrastructureConfiguration UpdateLifecyclePolicy"]),
    ("importexport", ["CancelJob CreateJob GetShippingLabel GetStatus ListJobs UpdateJob"]),
    ("inspector", [
      "AddAttributesToFindings CreateAssessmentTarget CreateAssessmentTemplate",
      "CreateExclusionsPreview CreateResourceGroup DeleteAssessmentRun DeleteAssessmentTarget",
      "DeleteAssessmentTemplate DescribeAssessmentRuns DescribeAssessmentTargets",
      "DescribeAssessmentTemplates DescribeCrossAccountAccessRole DescribeExclusions",
      "DescribeFindings DescribeResourceGroups DescribeRulesPackages GetAssessmentReport",
      "GetExclusionsPreview GetTelemetryMetadata ListAssessmentRunAgents ListAssessmentRuns",
      "ListAssessmentTargets ListAssessmentTemplates ListEventSubscriptions ListExclusions",
      "ListFindings ListRulesPackages ListTagsForResource PreviewAgents",
      "RegisterCrossAccountAccessRole RemoveAttributesFromFindings SetTagsForResource",
      "StartAssessmentRun StopAssessmentRun SubscribeToEvent UnsubscribeFromEvent",
      "UpdateAssessmentTarget"]),
    ("inspector-scan", ["ScanSbom"]),
    ("inspector2", [
      "AssociateMember BatchAssociateCodeSecurityScanConfiguration",
      "BatchDisassociateCodeSecurityScanConfiguration BatchGetAccountStatus BatchGetCodeSnippet",
      "BatchGetFindingDetails BatchGetFreeTrialInfo BatchGetMemberEc2DeepInspectionStatus",
      "BatchUpdateMemberEc2DeepInspectionStatus CancelFindingsReport CancelSbomExport",
      "CreateCisScanConfiguration CreateCodeSecurityIntegration",
      "CreateCodeSecurityScanConfiguration CreateFilter CreateFindingsReport CreateSbomExport",
      "DeleteCisScanConfiguration DeleteCodeSecurityIntegration",
      "DeleteCodeSecurityScanConfiguration DeleteFilter DescribeOrganizationConfiguration",
      "Disable DisableDelegatedAdminAccount DisassociateMember Enable",
      "EnableDelegatedAdminAccount GetCisScanReport GetCisScanResultDetails GetClustersForImage",
      "GetCodeSecurityIntegration GetCodeSecurityScan GetCodeSecurityScanConfiguration",
      "GetConfiguration GetDelegatedAdminAccount GetEc2DeepInspectionConfiguration",
      "GetEncryptionKey GetFindingsReportStatus GetMember GetSbomExport ListAccountPermissions",
      "ListCisScanConfigurations ListCisScanResultsAggregatedByChecks",
      "ListCisScanResultsAggregatedByTargetResource ListCisScans ListCodeSecurityIntegrations",
      "ListCodeSecurityScanConfigurationAssociations ListCodeSecurityScanConfigurations",
      "ListCoverage ListCoverageStatistics ListDelegatedAdminAccounts ListFilters",
      "ListFindingAggregations ListFindings ListMembers ListTagsForResource ListUsageTotals",
      "ResetEncryptionKey SearchVulnerabilities SendCisSessionHealth SendCisSessionTelemetry",
      "StartCisSession StartCodeSecurityScan StopCisSession TagResource UntagResource",
      "UpdateCisScanConfiguration UpdateCodeSecurityIntegration",
      "UpdateCodeSecurityScanConfiguration UpdateConfiguration",
      "UpdateEc2DeepInspectionConfiguration UpdateEncryptionKey UpdateFilter",
      "UpdateOrgEc2DeepInspectionConfiguration UpdateOrganizationConfiguration"]),
    ("interconnect", [
      "AcceptConnectionProposal CreateConnection DeleteConnection DescribeConnectionProposal",
      "GetConnection GetEnvironment ListAttachPoints ListConnections ListEnvironments",
      "ListTagsForResource TagResource UntagResource UpdateConnection"]),
    ("internetmonitor", [
      "CreateMonitor DeleteMonitor GetHealthEvent GetInternetEvent GetMonitor GetQueryResults",
      "GetQueryStatus ListHealthEvents ListInternetEvents ListMonitors ListTagsForResource",
      "StartQuery StopQuery TagResource UntagResource UpdateMonitor"]),
    ("invoicing", [
      "BatchGetInvoiceProfile CreateInvoiceUnit CreateProcurementPortalPreference",
      "DeleteInvoiceUnit DeleteProcurementPortalPreference GetInvoicePDF GetInvoiceUnit",
      "GetProcurementPortalPreference ListInvoiceSummaries ListInvoiceUnits",
      "ListProcurementPortalPreferences ListTagsForResource PutProcurementPortalPreference",
      "TagResource UntagResource UpdateInvoiceUnit UpdateProcurementPortalPreferenceStatus"]),
    ("iot", [
      "AcceptCertificateTransfer AddThingToBillingGroup AddThingToThingGroup",
      "AssociateSbomWithPackageVersion AssociateTargetsWithJob AttachPolicy",
      "AttachPrincipalPolicy AttachSecurityProfile AttachThingPrincipal",
      "CancelAuditMitigationActionsTask CancelAuditTask CancelCertificateTransfer",
      "CancelDetectMitigationActionsTask CancelJob CancelJobExecution ClearDefaultAuthorizer",
      "CloseTunnel ConfirmTopicRuleDestination CreateAuditSuppression CreateAuthorizer",
      "CreateBillingGroup CreateCertificateFromCsr CreateCertificateProvider CreateCommand",
      "CreateCustomMetric CreateDimension CreateDomainConfiguration CreateDynamicThingGroup",
      "CreateFleetMetric CreateJob CreateJobTemplate CreateKeysAndCertificate",
      "CreateMitigationAction CreateOTAUpdate CreatePackage CreatePackageVersion CreatePolicy",
      "CreatePolicyVersion CreateProvisioningClaim CreateProvisioningTemplate",
      "CreateProvisioningTemplateVersion CreateRoleAlias CreateScheduledAudit",
      "CreateSecurityProfile CreateStream CreateThing CreateThingGroup CreateThingType",
      "CreateTopicRule CreateTopicRuleDestination DeleteAccountAuditConfiguration",
      "DeleteAuditSuppression DeleteAuthorizer DeleteBillingGroup DeleteCACertificate",
      "DeleteCertificate DeleteCertificateProvider DeleteCommand DeleteCommandExecution",
      "DeleteConnection DeleteCustomMetric DeleteDimension DeleteDomainConfiguration",
      "DeleteDynamicThingGroup DeleteFleetMetric DeleteJob DeleteJobExecution DeleteJobTemplate",
      "DeleteMitigationAction DeleteOTAUpdate DeletePackage DeletePackageVersion DeletePolicy",
      "DeletePolicyVersion DeleteProvisioningTemplate DeleteProvisioningTemplateVersion",
      "DeleteRegistrationCode DeleteRoleAlias DeleteScheduledAudit DeleteSecurityProfile",
      "DeleteStream DeleteThing DeleteThingGroup DeleteThingShadow DeleteThingType",
      "DeleteTopicRule DeleteTopicRuleDestination DeleteV2LoggingLevel DeprecateThingType",
      "DescribeAccountAuditConfiguration DescribeAuditFinding",
      "DescribeAuditMitigationActionsTask DescribeAuditSuppression DescribeAuditTask",
      "DescribeAuthorizer DescribeBillingGroup DescribeCACertificate DescribeCertificate",
      "DescribeCertificateProvider DescribeCustomMetric DescribeDefaultAuthorizer",
      "DescribeDetectMitigationActionsTask DescribeDimension DescribeDomainConfiguration",
      "DescribeEncryptionConfiguration DescribeEndpoint DescribeEventConfigurations",
      "DescribeFleetMetric DescribeIndex DescribeJob DescribeJobExecution DescribeJobTemplate",
      "DescribeManagedJobTemplate DescribeMitigationAction DescribeProvisioningTemplate",
      "DescribeProvisioningTemplateVersion DescribeRoleAlias DescribeScheduledAudit",
      "DescribeSecurityProfile DescribeStream DescribeThing DescribeThingGroup",
      "DescribeThingRegistrationTask DescribeThingType DescribeTunnel DetachPolicy",
      "DetachPrincipalPolicy DetachSecurityProfile DetachThingPrincipal DisableTopicRule",
      "DisassociateSbomFromPackageVersion EnableTopicRule GetBehaviorModelTrainingSummaries",
      "GetBucketsAggregation GetCardinality GetCommand GetCommandExecution GetEffectivePolicies",
      "GetIndexingConfiguration GetJobDocument GetLoggingOptions GetOTAUpdate GetPackage",
      "GetPackageConfiguration GetPackageVersion GetPercentiles GetPolicy GetPolicyVersion",
      "GetRegistrationCode GetRetainedMessage GetStatistics GetThingConnectivityData",
      "GetThingShadow GetTopicRule GetTopicRuleDestination GetV2LoggingOptions",
      "ListActiveViolations ListAttachedPolicies ListAuditFindings",
      "ListAuditMitigationActionsExecutions ListAuditMitigationActionsTasks",
      "ListAuditSuppressions ListAuditTasks ListAuthorizers ListBillingGroups",
      "ListCACertificates ListCertificateProviders ListCertificates ListCertificatesByCA",
      "ListCommandExecutions ListCommands ListCustomMetrics",
      "ListDetectMitigationActionsExecutions ListDetectMitigationActionsTasks ListDimensions",
      "ListDomainConfigurations ListFleetMetrics ListIndices ListJobExecutionsForJob",
      "ListJobExecutionsForThing ListJobTemplates ListJobs ListManagedJobTemplates",
      "ListMetricValues ListMitigationActions ListNamedShadowsForThing ListOTAUpdates",
      "ListOutgoingCertificates ListPackageVersions ListPackages ListPolicies",
      "ListPolicyPrincipals ListPolicyVersions ListPrincipalPolicies ListPrincipalThings",
      "ListPrincipalThingsV2 ListProvisioningTemplateVersions ListProvisioningTemplates",
      "ListRelatedResourcesForAuditFinding ListRetainedMessages ListRoleAliases",
      "ListSbomValidationResults ListScheduledAudits ListSecurityProfiles",
      "ListSecurityProfilesForTarget ListStreams ListTagsForResource ListTargetsForPolicy",
      "ListTargetsForSecurityProfile ListThingGroups ListThingGroupsForThing",
      "ListThingPrincipals ListThingPrincipalsV2 ListThingRegistrationTaskReports",
      "ListThingRegistrationTasks ListThingTypes ListThings ListThingsInBillingGroup",
      "ListThingsInThingGroup ListTopicRuleDestinations ListTopicRules ListTunnels",
      "ListV2LoggingLevels ListViolationEvents OpenTunnel Publish",
      "PutVerificationStateOnViolation RegisterCACertificate RegisterCertificate",
      "RegisterCertificateWithoutCA RegisterThing RejectCertificateTransfer",
      "RemoveThingFromBillingGroup RemoveThingFromThingGroup ReplaceTopicRule",
      "RotateTunnelAccessToken SearchIndex SetDefaultAuthorizer SetDefaultPolicyVersion",
      "SetLoggingOptions SetV2LoggingLevel SetV2LoggingOptions StartAuditMitigationActionsTask",
      "StartDetectMitigationActionsTask StartOnDemandAuditTask StartThingRegistrationTask",
      "StopThingRegistrationTask TagResource TestAuthorization TestInvokeAuthorizer",
      "TransferCertificate UntagResource UpdateAccountAuditConfiguration UpdateAuditSuppression",
      "UpdateAuthorizer UpdateBillingGroup UpdateCACertificate UpdateCertificate",
      "UpdateCertificateProvider UpdateCommand UpdateCustomMetric UpdateDimension",
      "UpdateDomainConfiguration UpdateDynamicThingGroup UpdateEncryptionConfiguration",
      "UpdateEventConfigurations UpdateFleetMetric UpdateIndexingConfiguration UpdateJob",
      "UpdateMitigationAction UpdatePackage UpdatePackageConfiguration UpdatePackageVersion",
      "UpdateProvisioningTemplate UpdateRoleAlias UpdateScheduledAudit UpdateSecurityProfile",
      "UpdateStream UpdateThing UpdateThingGroup UpdateThingGroupsForThing UpdateThingShadow",
      "UpdateThingType UpdateTopicRuleDestination ValidateSecurityProfileBehaviors"]),
    ("iot-jobs-data", [
      "DescribeJobExecution GetPendingJobExecutions StartCommandExecution",
      "StartNextPendingJobExecution UpdateJobExecution"]),
    ("iotdeviceadvisor", [
      "CreateSuiteDefinition DeleteSuiteDefinition GetEndpoint GetSuiteDefinition GetSuiteRun",
      "GetSuiteRunReport ListSuiteDefinitions ListSuiteRuns ListTagsForResource StartSuiteRun",
      "StopSuiteRun TagResource UntagResource UpdateSuiteDefinition"]),
    ("iotevents", [
      "BatchAcknowledgeAlarm BatchDeleteDetector BatchDisableAlarm BatchEnableAlarm",
      "BatchPutMessage BatchResetAlarm BatchSnoozeAlarm BatchUpdateDetector CreateAlarmModel",
      "CreateDetectorModel CreateInput DeleteAlarmModel DeleteDetectorModel DeleteInput",
      "DescribeAlarm DescribeAlarmModel DescribeDetector DescribeDetectorModel",
      "DescribeDetectorModelAnalysis DescribeInput DescribeLoggingOptions",
      "GetDetectorModelAnalysisResults ListAlarmModelVersions ListAlarmModels ListAlarms",
      "ListDetectorModelVersions ListDetectorModels ListDetectors ListInputRoutings ListInputs",
      "ListTagsForResource PutLoggingOptions StartDetectorModelAnalysis TagResource",
      "UntagResource UpdateAlarmModel UpdateDetectorModel UpdateInput"]),
    ("iotfleetwise", [
      "AssociateVehicleFleet BatchCreateVehicle BatchUpdateVehicle CreateCampaign",
      "CreateDecoderManifest CreateFleet CreateModelManifest CreateSignalCatalog",
      "CreateStateTemplate CreateVehicle DeleteCampaign DeleteDecoderManifest DeleteFleet",
      "DeleteModelManifest DeleteSignalCatalog DeleteStateTemplate DeleteVehicle",
      "DisassociateVehicleFleet GetCampaign GetDecoderManifest GetEncryptionConfiguration",
      "GetFleet GetLoggingOptions GetModelManifest GetRegisterAccountStatus GetSignalCatalog",
      "GetStateTemplate GetVehicle GetVehicleStatus ImportDecoderManifest ImportSignalCatalog",
      "ListCampaigns ListDecoderManifestNetworkInterfaces ListDecoderManifestSignals",
      "ListDecoderManifests ListFleets ListFleetsForVehicle ListModelManifestNodes",
      "ListModelManifests ListSignalCatalogNodes ListSignalCatalogs ListStateTemplates",
      "ListTagsForResource ListVehicles ListVehiclesInFleet PutEncryptionConfiguration",
      "PutLoggingOptions RegisterAccount TagResource UntagResource UpdateCampaign",
      "UpdateDecoderManifest UpdateFleet UpdateModelManifest UpdateSignalCatalog",
      "UpdateStateTemplate UpdateVehicle"]),
    ("iotmanagedintegrations", [
      "CreateAccountAssociation CreateCloudConnector CreateConnectorDestination",
      "CreateCredentialLocker CreateDestination CreateEventLogConfiguration CreateManagedThing",
      "CreateNotificationConfiguration CreateOtaTask CreateOtaTaskConfiguration",
      "CreateProvisioningProfile DeleteAccountAssociation DeleteCloudConnector",
      "DeleteConnectorDestination DeleteCredentialLocker DeleteDestination",
      "DeleteEventLogConfiguration DeleteManagedThing DeleteNotificationConfiguration",
      "DeleteOtaTask DeleteOtaTaskConfiguration DeleteProvisioningProfile",
      "DeregisterAccountAssociation GetAccountAssociation GetCloudConnector",
      "GetConnectorDestination GetCredentialLocker GetCustomEndpoint",
      "GetDefaultEncryptionConfiguration GetDestination GetDeviceDiscovery",
      "GetEventLogConfiguration GetHubConfiguration GetManagedThing GetManagedThingCapabilities",
      "GetManagedThingCertificate GetManagedThingConnectivityData GetManagedThingMetaData",
      "GetManagedThingState GetNotificationConfiguration GetOtaTask GetOtaTaskConfiguration",
      "GetProvisioningProfile GetRuntimeLogConfiguration GetSchemaVersion",
      "ListAccountAssociations ListCloudConnectors ListConnectorDestinations",
      "ListCredentialLockers ListDestinations ListDeviceDiscoveries ListDiscoveredDevices",
      "ListEventLogConfigurations ListManagedThingAccountAssociations ListManagedThingSchemas",
      "ListManagedThings ListNotificationConfigurations ListOtaTaskConfigurations",
      "ListOtaTaskExecutions ListOtaTasks ListProvisioningProfiles ListSchemaVersions",
      "ListTagsForResource PutDefaultEncryptionConfiguration PutHubConfiguration",
      "PutRuntimeLogConfiguration RegisterAccountAssociation RegisterCustomEndpoint",
      "ResetRuntimeLogConfiguration SendConnectorEvent SendManagedThingCommand",
      "StartAccountAssociationRefresh StartDeviceDiscovery TagResource UntagResource",
      "UpdateAccountAssociation UpdateCloudConnector UpdateConnectorDestination",
      "UpdateDestination UpdateEventLogConfiguration UpdateManagedThing",
      "UpdateNotificationConfiguration UpdateOtaTask"]),
    ("iotsitewise", [
      "AssociateAssets AssociateTimeSeriesToAssetProperty BatchAssociateProjectAssets",
      "BatchDisassociateProjectAssets BatchGetAssetPropertyAggregates",
      "BatchGetAssetPropertyValue BatchGetAssetPropertyValueHistory BatchPutAssetPropertyValue",
      "CreateAccessPolicy CreateAsset CreateAssetModel CreateAssetModelCompositeModel",
      "CreateBulkImportJob CreateComputationModel CreateDashboard CreateDataset CreateGateway",
      "CreatePortal CreateProject DeleteAccessPolicy DeleteAsset DeleteAssetModel",
      "DeleteAssetModelCompositeModel DeleteAssetModelInterfaceRelationship",
      "DeleteComputationModel DeleteDashboard DeleteDataset DeleteGateway DeletePortal",
      "DeleteProject DeleteTimeSeries DescribeAccessPolicy DescribeAction DescribeAsset",
      "DescribeAssetCompositeModel DescribeAssetModel DescribeAssetModelCompositeModel",
      "DescribeAssetModelInterfaceRelationship DescribeAssetProperty DescribeBulkImportJob",
      "DescribeComputationModel DescribeComputationModelExecutionSummary DescribeDashboard",
      "DescribeDataset DescribeDefaultEncryptionConfiguration DescribeExecution DescribeGateway",
      "DescribeGatewayCapabilityConfiguration DescribeLoggingOptions DescribePortal",
      "DescribeProject DescribeStorageConfiguration DescribeTimeSeries DisassociateAssets",
      "DisassociateTimeSeriesFromAssetProperty ExecuteAction ExecuteQuery",
      "GetAssetPropertyAggregates GetAssetPropertyValue GetAssetPropertyValueHistory",
      "GetInterpolatedAssetPropertyValues InvokeAssistant ListAccessPolicies ListActions",
      "ListAssetModelCompositeModels ListAssetModelProperties ListAssetModels",
      "ListAssetProperties ListAssetRelationships ListAssets ListAssociatedAssets",
      "ListBulkImportJobs ListCompositionRelationships ListComputationModelDataBindingUsages",
      "ListComputationModelResolveToResources ListComputationModels ListDashboards ListDatasets",
      "ListExecutions ListGateways ListInterfaceRelationships ListPortals ListProjectAssets",
      "ListProjects ListTagsForResource ListTimeSeries PutAssetModelInterfaceRelationship",
      "PutDefaultEncryptionConfiguration PutLoggingOptions PutStorageConfiguration TagResource",
      "UntagResource UpdateAccessPolicy UpdateAsset UpdateAssetModel",
      "UpdateAssetModelCompositeModel UpdateAssetProperty UpdateComputationModel",
      "UpdateDashboard UpdateDataset UpdateGateway UpdateGatewayCapabilityConfiguration",
      "UpdatePortal UpdateProject"]),
    ("iotthingsgraph", [
      "AssociateEntityToThing CreateFlowTemplate CreateSystemInstance CreateSystemTemplate",
      "DeleteFlowTemplate DeleteNamespace DeleteSystemInstance DeleteSystemTemplate",
      "DeploySystemInstance DeprecateFlowTemplate DeprecateSystemTemplate DescribeNamespace",
      "DissociateEntityFromThing GetEntities GetFlowTemplate GetFlowTemplateRevisions",
      "GetNamespaceDeletionStatus GetSystemInstance GetSystemTemplate",
      "GetSystemTemplateRevisions GetUploadStatus ListFlowExecutionMessages ListTagsForResource",
      "SearchEntities SearchFlowExecutions SearchFlowTemplates SearchSystemInstances",
      "SearchSystemTemplates SearchThings TagResource UndeploySystemInstance UntagResource",
      "UpdateFlowTemplate UpdateSystemTemplate UploadEntityDefinitions"]),
    ("iottwinmaker", [
      "BatchPutPropertyValues CancelMetadataTransferJob CreateComponentType CreateEntity",
      "CreateMetadataTransferJob CreateScene CreateSyncJob CreateWorkspace DeleteComponentType",
      "DeleteEntity DeleteScene DeleteSyncJob DeleteWorkspace ExecuteQuery GetComponentType",
      "GetEntity GetMetadataTransferJob GetPricingPlan GetPropertyValue GetPropertyValueHistory",
      "GetScene GetSyncJob GetWorkspace ListComponentTypes ListComponents ListEntities",
      "ListMetadataTransferJobs ListProperties ListScenes ListSyncJobs ListSyncResources",
      "ListTagsForResource ListWorkspaces TagResource UntagResource UpdateComponentType",
      "UpdateEntity UpdatePricingPlan UpdateScene UpdateWorkspace"]),
    ("iotwireless", [
      "AssociateAwsAccountWithPartnerAccount AssociateMulticastGroupWithFuotaTask",
      "AssociateWirelessDeviceWithFuotaTask AssociateWirelessDeviceWithMulticastGroup",
      "AssociateWirelessDeviceWithThing AssociateWirelessGatewayWithCertificate",
      "AssociateWirelessGatewayWithThing CancelMulticastGroupSession CreateDestination",
      "CreateDeviceProfile CreateFuotaTask CreateMulticastGroup",
      "CreateNetworkAnalyzerConfiguration CreateServiceProfile CreateWirelessDevice",
      "CreateWirelessGateway CreateWirelessGatewayTask CreateWirelessGatewayTaskDefinition",
      "DeleteDestination DeleteDeviceProfile DeleteFuotaTask DeleteMulticastGroup",
      "DeleteNetworkAnalyzerConfiguration DeleteQueuedMessages DeleteServiceProfile",
      "DeleteWirelessDevice DeleteWirelessDeviceImportTask DeleteWirelessGateway",
      "DeleteWirelessGatewayTask DeleteWirelessGatewayTaskDefinition DeregisterWirelessDevice",
      "DisassociateAwsAccountFromPartnerAccount DisassociateMulticastGroupFromFuotaTask",
      "DisassociateWirelessDeviceFromFuotaTask DisassociateWirelessDeviceFromMulticastGroup",
      "DisassociateWirelessDeviceFromThing DisassociateWirelessGatewayFromCertificate",
      "DisassociateWirelessGatewayFromThing GetDestination GetDeviceProfile",
      "GetEventConfigurationByResourceTypes GetFuotaTask GetLogLevelsByResourceTypes",
      "GetMetricConfiguration GetMetrics GetMulticastGroup GetMulticastGroupSession",
      "GetNetworkAnalyzerConfiguration GetPartnerAccount GetPosition GetPositionConfiguration",
      "GetPositionEstimate GetResourceEventConfiguration GetResourceLogLevel",
      "GetResourcePosition GetServiceEndpoint GetServiceProfile GetWirelessDevice",
      "GetWirelessDeviceImportTask GetWirelessDeviceStatistics GetWirelessGateway",
      "GetWirelessGatewayCertificate GetWirelessGatewayFirmwareInformation",
      "GetWirelessGatewayStatistics GetWirelessGatewayTask GetWirelessGatewayTaskDefinition",
      "ListDestinations ListDeviceProfiles ListDevicesForWirelessDeviceImportTask",
      "ListEventConfigurations ListFuotaTasks ListMulticastGroups",
      "ListMulticastGroupsByFuotaTask ListNetworkAnalyzerConfigurations ListPartnerAccounts",
      "ListPositionConfigurations ListQueuedMessages ListServiceProfiles ListTagsForResource",
      "ListWirelessDeviceImportTasks ListWirelessDevices ListWirelessGatewayTaskDefinitions",
      "ListWirelessGateways PutPositionConfiguration PutResourceLogLevel",
      "ResetAllResourceLogLevels ResetResourceLogLevel SendDataToMulticastGroup",
      "SendDataToWirelessDevice StartBulkAssociateWirelessDeviceWithMulticastGroup",
      "StartBulkDisassociateWirelessDeviceFromMulticastGroup StartFuotaTask",
      "StartMulticastGroupSession StartSingleWirelessDeviceImportTask",
      "StartWirelessDeviceImportTask TagResource TestWirelessDevice UntagResource",
      "UpdateDestination UpdateEventConfigurationByResourceTypes UpdateFuotaTask",
      "UpdateLogLevelsByResourceTypes UpdateMetricConfiguration UpdateMulticastGroup",
      "UpdateNetworkAnalyzerConfiguration UpdatePartnerAccount UpdatePosition",
      "UpdateResourceEventConfiguration UpdateResourcePosition UpdateWirelessDevice",
      "UpdateWirelessDeviceImportTask UpdateWirelessGateway"]),
    ("ivs", [
      "BatchGetChannel BatchGetStreamKey BatchStartViewerSessionRevocation",
      "CreateAdConfiguration CreateChannel CreateEncoderConfiguration CreateIngestConfiguration",
      "CreateParticipantToken CreatePlaybackRestrictionPolicy CreateRecordingConfiguration",
      "CreateStage CreateStorageConfiguration CreateStreamKey DeleteAdConfiguration",
      "DeleteChannel DeleteEncoderConfiguration DeleteIngestConfiguration DeletePlaybackKeyPair",
      "DeletePlaybackRestrictionPolicy DeletePublicKey DeleteRecordingConfiguration DeleteStage",
      "DeleteStorageConfiguration DeleteStreamKey DisconnectParticipant GetAdConfiguration",
      "GetChannel GetComposition GetEncoderConfiguration GetIngestConfiguration GetParticipant",
      "GetPlaybackKeyPair GetPlaybackRestrictionPolicy GetPublicKey GetRecordingConfiguration",
      "GetStage GetStageSession GetStorageConfiguration GetStream GetStreamKey GetStreamSession",
      "ImportPlaybackKeyPair ImportPublicKey InsertAdBreak ListAdConfigurations ListChannels",
      "ListCompositions ListEncoderConfigurations ListIngestConfigurations",
      "ListParticipantEvents ListParticipantReplicas ListParticipants ListPlaybackKeyPairs",
      "ListPlaybackRestrictionPolicies ListPublicKeys ListRecordingConfigurations",
      "ListStageSessions ListStages ListStorageConfigurations ListStreamKeys ListStreamSessions",
      "ListStreams ListTagsForResource PutMetadata StartComposition StartParticipantReplication",
      "StartViewerSessionRevocation StopComposition StopParticipantReplication StopStream",
      "TagResource UntagResource UpdateChannel UpdateIngestConfiguration",
      "UpdatePlaybackRestrictionPolicy UpdateStage"]),
    ("ivschat", [
      "CreateChatToken CreateLoggingConfiguration CreateRoom DeleteLoggingConfiguration",
      "DeleteMessage DeleteRoom DisconnectUser GetLoggingConfiguration GetRoom",
      "ListLoggingConfigurations ListRooms ListTagsForResource SendEvent TagResource",
      "UntagResource UpdateLoggingConfiguration UpdateRoom"]),
    ("kafka", [
      "BatchAssociateScramSecret BatchDisassociateScramSecret CreateCluster CreateClusterV2",
      "CreateConfiguration CreateReplicator CreateTopic CreateVpcConnection DeleteCluster",
      "DeleteClusterPolicy DeleteConfiguration DeleteReplicator DeleteTopic DeleteVpcConnection",
      "DescribeCluster DescribeClusterOperation DescribeClusterOperationV2 DescribeClusterV2",
      "DescribeConfiguration DescribeConfigurationRevision DescribeReplicator DescribeTopic",
      "DescribeTopicPartitions DescribeVpcConnection GetBootstrapBrokers GetClusterPolicy",
      "GetCompatibleKafkaVersions ListClientVpcConnections ListClusterOperations",
      "ListClusterOperationsV2 ListClusters ListClustersV2 ListConfigurationRevisions",
      "ListConfigurations ListKafkaVersions ListNodes ListReplicators ListScramSecrets",
      "ListTagsForResource ListTopics ListVpcConnections PutClusterPolicy RebootBroker",
      "RejectClientVpcConnection TagResource UntagResource UpdateBrokerCount",
      "UpdateBrokerStorage UpdateBrokerType UpdateClusterConfiguration",
      "UpdateClusterKafkaVersion UpdateConfiguration UpdateConnectivity UpdateMonitoring",
      "UpdateRebalancing UpdateReplicationInfo UpdateSecurity UpdateStorage UpdateTopic"]),
    ("kafkaconnect", [
      "CreateConnector CreateCustomPlugin CreateWorkerConfiguration DeleteConnector",
      "DeleteCustomPlugin DeleteWorkerConfiguration DescribeConnector",
      "DescribeConnectorOperation DescribeCustomPlugin DescribeWorkerConfiguration",
      "ListConnectorOperations ListConnectors ListCustomPlugins ListTagsForResource",
      "ListWorkerConfigurations TagResource UntagResource UpdateConnector"]),
    ("kendra", [
      "AssociateEntitiesToExperience AssociatePersonasToEntities BatchDeleteDocument",
      "BatchDeleteFeaturedResultsSet BatchGetDocumentStatus BatchPutDocument",
      "ClearQuerySuggestions CreateAccessControlConfiguration CreateDataSource CreateExperience",
      "CreateFaq CreateFeaturedResultsSet CreateIndex CreateQuerySuggestionsBlockList",
      "CreateThesaurus DeleteAccessControlConfiguration DeleteDataSource DeleteExperience",
      "DeleteFaq DeleteIndex DeletePrincipalMapping DeleteQuerySuggestionsBlockList",
      "DeleteThesaurus DescribeAccessControlConfiguration DescribeDataSource DescribeExperience",
      "DescribeFaq DescribeFeaturedResultsSet DescribeIndex DescribePrincipalMapping",
      "DescribeQuerySuggestionsBlockList DescribeQuerySuggestionsConfig DescribeThesaurus",
      "DisassociateEntitiesFromExperience DisassociatePersonasFromEntities GetQuerySuggestions",
      "GetSnapshots ListAccessControlConfigurations ListDataSourceSyncJobs ListDataSources",
      "ListEntityPersonas ListExperienceEntities ListExperiences ListFaqs",
      "ListFeaturedResultsSets ListGroupsOlderThanOrderingId ListIndices",
      "ListQuerySuggestionsBlockLists ListTagsForResource ListThesauri PutPrincipalMapping",
      "Query Retrieve StartDataSourceSyncJob StopDataSourceSyncJob SubmitFeedback TagResource",
      "UntagResource UpdateAccessControlConfiguration UpdateDataSource UpdateExperience",
      "UpdateFeaturedResultsSet UpdateIndex UpdateQuerySuggestionsBlockList",
      "UpdateQuerySuggestionsConfig UpdateThesaurus"]),
    ("kendra-ranking", [
      "CreateRescoreExecutionPlan DeleteRescoreExecutionPlan DescribeRescoreExecutionPlan",
      "ListRescoreExecutionPlans ListTagsForResource Rescore TagResource UntagResource",
      "UpdateRescoreExecutionPlan"]),
    ("kinesis", [
      "AddTagsToStream CreateStream DecreaseStreamRetentionPeriod DeleteResourcePolicy",
      "DeleteStream DeregisterStreamConsumer DescribeAccountSettings DescribeLimits",
      "DescribeStream DescribeStreamConsumer DescribeStreamSummary DisableEnhancedMonitoring",
      "EnableEnhancedMonitoring GetRecords GetResourcePolicy GetShardIterator",
      "IncreaseStreamRetentionPeriod ListShards ListStreamConsumers ListStreams",
      "ListTagsForResource ListTagsForStream MergeShards PutRecord PutRecords PutResourcePolicy",
      "RegisterStreamConsumer RemoveTagsFromStream SplitShard StartStreamEncryption",
      "StopStreamEncryption SubscribeToShard TagResource UntagResource UpdateAccountSettings",
      "UpdateMaxRecordSize UpdateShardCount UpdateStreamMode UpdateStreamWarmThroughput"]),
    ("kinesisanalytics", [
      "AddApplicationCloudWatchLoggingOption AddApplicationInput",
      "AddApplicationInputProcessingConfiguration AddApplicationOutput",
      "AddApplicationReferenceDataSource AddApplicationVpcConfiguration CreateApplication",
      "CreateApplicationPresignedUrl CreateApplicationSnapshot DeleteApplication",
      "DeleteApplicationCloudWatchLoggingOption DeleteApplicationInputProcessingConfiguration",
      "DeleteApplicationOutput DeleteApplicationReferenceDataSource DeleteApplicationSnapshot",
      "DeleteApplicationVpcConfiguration DescribeApplication DescribeApplicationOperation",
      "DescribeApplicationSnapshot DescribeApplicationVersion DiscoverInputSchema",
      "ListApplicationOperations ListApplicationSnapshots ListApplicationVersions",
      "ListApplications ListTagsForResource RollbackApplication StartApplication",
      "StopApplication TagResource UntagResource UpdateApplication",
      "UpdateApplicationMaintenanceConfiguration"]),
    ("kinesisvideo", [
      "CreateSignalingChannel CreateStream DeleteEdgeConfiguration DeleteSignalingChannel",
      "DeleteStream DescribeEdgeConfiguration DescribeImageGenerationConfiguration",
      "DescribeMappedResourceConfiguration DescribeMediaStorageConfiguration",
      "DescribeNotificationConfiguration DescribeSignalingChannel DescribeStream",
      "DescribeStreamStorageConfiguration GetClip GetDASHStreamingSessionURL GetDataEndpoint",
      "GetHLSStreamingSessionURL GetIceServerConfig GetImages GetMedia GetMediaForFragmentList",
      "GetSignalingChannelEndpoint JoinStorageSession JoinStorageSessionAsViewer",
      "ListEdgeAgentConfigurations ListFragments ListSignalingChannels ListStreams",
      "ListTagsForResource ListTagsForStream SendAlexaOfferToMaster",
      "StartEdgeConfigurationUpdate TagResource TagStream UntagResource UntagStream",
      "UpdateDataRetention UpdateImageGenerationConfiguration UpdateMediaStorageConfiguration",
      "UpdateNotificationConfiguration UpdateSignalingChannel UpdateStream",
      "UpdateStreamStorageConfiguration"]),
    ("kms", [
      "CancelKeyDeletion ConnectCustomKeyStore CreateAlias CreateCustomKeyStore CreateGrant",
      "CreateKey Decrypt DeleteAlias DeleteCustomKeyStore DeleteImportedKeyMaterial",
      "DeriveSharedSecret DescribeCustomKeyStores DescribeKey DisableKey DisableKeyRotation",
      "DisconnectCustomKeyStore EnableKey EnableKeyRotation Encrypt GenerateDataKey",
      "GenerateDataKeyPair GenerateDataKeyPairWithoutPlaintext GenerateDataKeyWithoutPlaintext",
      "GenerateMac GenerateRandom GetKeyLastUsage GetKeyPolicy GetKeyRotationStatus",
      "GetParametersForImport GetPublicKey ImportKeyMaterial ListAliases ListGrants",
      "ListKeyPolicies ListKeyRotations ListKeys ListResourceTags ListRetirableGrants",
      "PutKeyPolicy ReEncrypt ReEncryptFrom ReEncryptTo ReplicateKey RetireGrant RevokeGrant",
      "RotateKeyOnDemand ScheduleKeyDeletion Sign TagResource UntagResource UpdateAlias",
      "UpdateCustomKeyStore UpdateKeyDescription UpdatePrimaryRegion Verify VerifyMac"]),
    ("lakeformation", [
      "AddLFTagsToResource AssumeDecoratedRoleWithSAML BatchGrantPermissions",
      "BatchRevokePermissions CancelTransaction CommitTransaction CreateDataCellsFilter",
      "CreateLFTag CreateLFTagExpression CreateLakeFormationIdentityCenterConfiguration",
      "CreateLakeFormationOptIn DeleteDataCellsFilter DeleteLFTag DeleteLFTagExpression",
      "DeleteLakeFormationIdentityCenterConfiguration DeleteLakeFormationOptIn",
      "DeleteObjectsOnCancel DeregisterResource",
      "DescribeLakeFormationIdentityCenterConfiguration DescribeResource DescribeTransaction",
      "ExtendTransaction GetDataCellsFilter GetDataLakePrincipal GetDataLakeSettings",
      "GetEffectivePermissionsForPath GetLFTag GetLFTagExpression GetQueryState",
      "GetQueryStatistics GetResourceLFTags GetTableObjects GetTemporaryDataLocationCredentials",
      "GetTemporaryGluePartitionCredentials GetTemporaryGlueTableCredentials GetWorkUnitResults",
      "GetWorkUnits GrantPermissions ListDataCellsFilter ListLFTagExpressions ListLFTags",
      "ListLakeFormationOptIns ListPermissions ListResources ListTableStorageOptimizers",
      "ListTransactions PutDataLakeSettings RegisterResource RemoveLFTagsFromResource",
      "RevokePermissions SearchDatabasesByLFTags SearchTablesByLFTags StartQueryPlanning",
      "StartTransaction UpdateDataCellsFilter UpdateLFTag UpdateLFTagExpression",
      "UpdateLakeFormationIdentityCenterConfiguration UpdateResource UpdateTableObjects",
      "UpdateTableStorageOptimizer"]),
    ("lambda", [
      "AddLayerVersionPermission AddPermission CheckpointDurableExecution CreateAlias",
      "CreateCapacityProvider CreateCodeSigningConfig CreateEventSourceMapping CreateFunction",
      "CreateFunctionUrlConfig DeleteAlias DeleteCapacityProvider DeleteCodeSigningConfig",
      "DeleteEventSourceMapping DeleteFunction DeleteFunctionCodeSigningConfig",
      "DeleteFunctionConcurrency DeleteFunctionEventInvokeConfig DeleteFunctionUrlConfig",
      "DeleteLayerVersion DeleteProvisionedConcurrencyConfig GetAccountSettings GetAlias",
      "GetCapacityProvider GetCodeSigningConfig GetDurableExecution GetDurableExecutionHistory",
      "GetDurableExecutionState GetEventSourceMapping GetFunction GetFunctionCodeSigningConfig",
      "GetFunctionConcurrency GetFunctionConfiguration GetFunctionEventInvokeConfig",
      "GetFunctionRecursionConfig GetFunctionScalingConfig GetFunctionUrlConfig GetLayerVersion",
      "GetLayerVersionByArn GetLayerVersionPolicy GetPolicy GetProvisionedConcurrencyConfig",
      "GetRuntimeManagementConfig Invoke InvokeAsync InvokeFunction InvokeFunctionUrl",
      "InvokeWithResponseStream ListAliases ListCapacityProviders ListCodeSigningConfigs",
      "ListDurableExecutionsByFunction ListEventSourceMappings ListFunctionEventInvokeConfigs",
      "ListFunctionUrlConfigs ListFunctionVersionsByCapacityProvider ListFunctions",
      "ListFunctionsByCodeSigningConfig ListLayerVersions ListLayers",
      "ListProvisionedConcurrencyConfigs ListTags ListVersionsByFunction PublishLayerVersion",
      "PublishVersion PutFunctionCodeSigningConfig PutFunctionConcurrency",
      "PutFunctionEventInvokeConfig PutFunctionRecursionConfig PutFunctionScalingConfig",
      "PutProvisionedConcurrencyConfig PutRuntimeManagementConfig RemoveLayerVersionPermission",
      "RemovePermission SendDurableExecutionCallbackFailure",
      "SendDurableExecutionCallbackHeartbeat SendDurableExecutionCallbackSuccess",
      "StopDurableExecution TagResource UntagResource UpdateAlias UpdateCapacityProvider",
      "UpdateCodeSigningConfig UpdateEventSourceMapping UpdateFunctionCode",
      "UpdateFunctionConfiguration UpdateFunctionEventInvokeConfig UpdateFunctionUrlConfig"]),
    ("launchwizard", [
      "CreateDeployment DeleteDeployment GetDeployment GetDeploymentPatternVersion GetWorkload",
      "GetWorkloadDeploymentPattern ListDeploymentEvents ListDeploymentPatternVersions",
      "ListDeployments ListTagsForResource ListWorkloadDeploymentPatterns ListWorkloads",
      "TagResource UntagResource UpdateDeployment"]),
    ("lex", [
      "BatchCreateCustomVocabularyItem BatchDeleteCustomVocabularyItem",
      "BatchUpdateCustomVocabularyItem BuildBotLocale CreateBot CreateBotAlias CreateBotLocale",
      "CreateBotReplica CreateBotVersion CreateExport CreateIntent CreateIntentVersion",
      "CreateResourcePolicy CreateResourcePolicyStatement CreateSlot CreateSlotType",
      "CreateSlotTypeVersion CreateTestSetDiscrepancyReport CreateUploadUrl DeleteBot",
      "DeleteBotAlias DeleteBotAnalyzerRecommendation DeleteBotChannelAssociation",
      "DeleteBotLocale DeleteBotReplica DeleteBotVersion DeleteCustomVocabulary DeleteExport",
      "DeleteImport DeleteIntent DeleteIntentVersion DeleteResourcePolicy",
      "DeleteResourcePolicyStatement DeleteSession DeleteSlot DeleteSlotType",
      "DeleteSlotTypeVersion DeleteTestSet DeleteUtterances DescribeBot DescribeBotAlias",
      "DescribeBotAnalyzerRecommendation DescribeBotLocale DescribeBotRecommendation",
      "DescribeBotReplica DescribeBotResourceGeneration DescribeBotVersion",
      "DescribeCustomVocabularyMetadata DescribeExport DescribeImport DescribeIntent",
      "DescribeResourcePolicy DescribeSlot DescribeSlotType DescribeTestExecution",
      "DescribeTestSet DescribeTestSetDiscrepancyReport DescribeTestSetGeneration",
      "GenerateBotElement GetBot GetBotAlias GetBotAliases GetBotChannelAssociation",
      "GetBotChannelAssociations GetBotVersions GetBots GetBuiltinIntent GetBuiltinIntents",
      "GetBuiltinSlotTypes GetExport GetImport GetIntent GetIntentVersions GetIntents",
      "GetMigration GetMigrations GetSession GetSlotType GetSlotTypeVersions GetSlotTypes",
      "GetTestExecutionArtifactsUrl GetUtterancesView ListAggregatedUtterances",
      "ListBotAliasReplicas ListBotAliases ListBotAnalyzerHistory ListBotLocales",
      "ListBotRecommendations ListBotReplicas ListBotResourceGenerations ListBotVersionReplicas",
      "ListBotVersions ListBots ListBuiltInIntents ListBuiltInSlotTypes",
      "ListCustomVocabularyItems ListExports ListImports ListIntentMetrics ListIntentPaths",
      "ListIntentStageMetrics ListIntents ListRecommendedIntents ListSessionAnalyticsData",
      "ListSessionMetrics ListSlotTypes ListSlots ListTagsForResource",
      "ListTestExecutionResultItems ListTestExecutions ListTestSetRecords ListTestSets",
      "ListUtteranceAnalyticsData ListUtteranceMetrics PostContent PostText PutBot PutBotAlias",
      "PutIntent PutSession PutSlotType RecognizeText RecognizeUtterance",
      "SearchAssociatedTranscripts StartBotAnalyzer StartBotRecommendation",
      "StartBotResourceGeneration StartConversation StartImport StartMigration",
      "StartTestExecution StartTestSetGeneration StopBotAnalyzer StopBotRecommendation",
      "TagResource UntagResource UpdateBot UpdateBotAlias UpdateBotLocale",
      "UpdateBotRecommendation UpdateExport UpdateIntent UpdateResourcePolicy UpdateSlot",
      "UpdateSlotType UpdateTestSet"]),
    ("license-manager", [
      "AcceptGrant CheckInLicense CheckoutBorrowLicense CheckoutLicense CreateGrant",
      "CreateGrantVersion CreateLicense CreateLicenseAssetGroup CreateLicenseAssetRuleset",
      "CreateLicenseConfiguration CreateLicenseConversionTaskForResource",
      "CreateLicenseManagerReportGenerator CreateLicenseVersion CreateToken DeleteGrant",
      "DeleteLicense DeleteLicenseAssetGroup DeleteLicenseAssetRuleset",
      "DeleteLicenseConfiguration DeleteLicenseManagerReportGenerator DeleteToken",
      "ExtendLicenseConsumption GetAccessToken GetGrant GetLicense GetLicenseAssetGroup",
      "GetLicenseAssetRuleset GetLicenseConfiguration GetLicenseConversionTask",
      "GetLicenseManagerReportGenerator GetLicenseUsage GetServiceSettings",
      "ListAssetsForLicenseAssetGroup ListAssociationsForLicenseConfiguration",
      "ListDistributedGrants ListFailuresForLicenseConfigurationOperations",
      "ListLicenseAssetGroups ListLicenseAssetRulesets ListLicenseConfigurations",
      "ListLicenseConfigurationsForOrganization ListLicenseConversionTasks",
      "ListLicenseManagerReportGenerators ListLicenseSpecificationsForResource",
      "ListLicenseVersions ListLicenses ListReceivedGrants ListReceivedGrantsForOrganization",
      "ListReceivedLicenses ListReceivedLicensesForOrganization ListResourceInventory",
      "ListTagsForResource ListTokens ListUsageForLicenseConfiguration RejectGrant TagResource",
      "UntagResource UpdateLicenseAssetGroup UpdateLicenseAssetRuleset",
      "UpdateLicenseConfiguration UpdateLicenseManagerReportGenerator",
      "UpdateLicenseSpecificationsForResource UpdateServiceSettings"]),
    ("license-manager-linux-subscriptions", [
      "DeregisterSubscriptionProvider GetRegisteredSubscriptionProvider GetServiceSettings",
      "ListLinuxSubscriptionInstances ListLinuxSubscriptions",
      "ListRegisteredSubscriptionProviders ListTagsForResource RegisterSubscriptionProvider",
      "TagResource UntagResource UpdateServiceSettings"]),
    ("license-manager-user-subscriptions", [
      "AssociateUser CreateLicenseServerEndpoint DeleteLicenseServerEndpoint",
      "DeregisterIdentityProvider DisassociateUser ListIdentityProviders ListInstances",
      "ListLicenseServerEndpoints ListProductSubscriptions ListTagsForResource",
      "ListUserAssociations RegisterIdentityProvider StartProductSubscription",
      "StopProductSubscription TagResource UntagResource UpdateIdentityProviderSettings"]),
    ("lightsail", [
      "AllocateStaticIp AttachCertificateToDistribution AttachDisk",
      "AttachInstancesToLoadBalancer AttachLoadBalancerTlsCertificate AttachStaticIp",
      "CloseInstancePublicPorts CopySnapshot CreateBucket CreateBucketAccessKey",
      "CreateCertificate CreateCloudFormationStack CreateContactMethod CreateContainerService",
      "CreateContainerServiceDeployment CreateContainerServiceRegistryLogin CreateDisk",
      "CreateDiskFromSnapshot CreateDiskSnapshot CreateDistribution CreateDomain",
      "CreateDomainEntry CreateGUISessionAccessDetails CreateInstanceSnapshot CreateInstances",
      "CreateInstancesFromSnapshot CreateKeyPair CreateLoadBalancer",
      "CreateLoadBalancerTlsCertificate CreateRelationalDatabase",
      "CreateRelationalDatabaseFromSnapshot CreateRelationalDatabaseSnapshot DeleteAlarm",
      "DeleteAutoSnapshot DeleteBucket DeleteBucketAccessKey DeleteCertificate",
      "DeleteContactMethod DeleteContainerImage DeleteContainerService DeleteDisk",
      "DeleteDiskSnapshot DeleteDistribution DeleteDomain DeleteDomainEntry DeleteInstance",
      "DeleteInstanceSnapshot DeleteKeyPair DeleteKnownHostKeys DeleteLoadBalancer",
      "DeleteLoadBalancerTlsCertificate DeleteRelationalDatabase",
      "DeleteRelationalDatabaseSnapshot DetachCertificateFromDistribution DetachDisk",
      "DetachInstancesFromLoadBalancer DetachStaticIp DisableAddOn DownloadDefaultKeyPair",
      "EnableAddOn ExportSnapshot GetActiveNames GetAlarms GetAutoSnapshots GetBlueprints",
      "GetBucketAccessKeys GetBucketBundles GetBucketMetricData GetBuckets GetBundles",
      "GetCertificates GetCloudFormationStackRecords GetContactMethods GetContainerAPIMetadata",
      "GetContainerImages GetContainerLog GetContainerServiceDeployments",
      "GetContainerServiceMetricData GetContainerServicePowers GetContainerServices",
      "GetCostEstimate GetDisk GetDiskSnapshot GetDiskSnapshots GetDisks GetDistributionBundles",
      "GetDistributionLatestCacheReset GetDistributionMetricData GetDistributions GetDomain",
      "GetDomains GetExportSnapshotRecords GetInstance GetInstanceAccessDetails",
      "GetInstanceMetricData GetInstancePortStates GetInstanceSnapshot GetInstanceSnapshots",
      "GetInstanceState GetInstances GetKeyPair GetKeyPairs GetLoadBalancer",
      "GetLoadBalancerMetricData GetLoadBalancerTlsCertificates GetLoadBalancerTlsPolicies",
      "GetLoadBalancers GetOperation GetOperations GetOperationsForResource GetRegions",
      "GetRelationalDatabase GetRelationalDatabaseBlueprints GetRelationalDatabaseBundles",
      "GetRelationalDatabaseEvents GetRelationalDatabaseLogEvents",
      "GetRelationalDatabaseLogStreams GetRelationalDatabaseMasterUserPassword",
      "GetRelationalDatabaseMetricData GetRelationalDatabaseParameters",
      "GetRelationalDatabaseSnapshot GetRelationalDatabaseSnapshots GetRelationalDatabases",
      "GetSetupHistory GetStaticIp GetStaticIps ImportKeyPair IsVpcPeered",
      "OpenInstancePublicPorts PeerVpc PutAlarm PutInstancePublicPorts RebootInstance",
      "RebootRelationalDatabase RegisterContainerImage ReleaseStaticIp ResetDistributionCache",
      "SendContactMethodVerification SetIpAddressType SetResourceAccessForBucket",
      "SetupInstanceHttps StartGUISession StartInstance StartRelationalDatabase StopGUISession",
      "StopInstance StopRelationalDatabase TagResource TestAlarm UnpeerVpc UntagResource",
      "UpdateBucket UpdateBucketBundle UpdateContainerService UpdateDistribution",
      "UpdateDistributionBundle UpdateDomainEntry UpdateInstanceMetadataOptions",
      "UpdateLoadBalancerAttribute UpdateRelationalDatabase UpdateRelationalDatabaseParameters"]),
    ("logs", [
      "AssociateKmsKey AssociateSourceToS3TableIntegration CancelExportTask CancelImportTask",
      "CreateDelivery CreateExportTask CreateImportTask CreateLogAnomalyDetector CreateLogGroup",
      "CreateLogStream CreateLookupTable CreateScheduledQuery DeleteAccountPolicy",
      "DeleteDataProtectionPolicy DeleteDelivery DeleteDeliveryDestination",
      "DeleteDeliveryDestinationPolicy DeleteDeliverySource DeleteDestination DeleteIndexPolicy",
      "DeleteIntegration DeleteLogAnomalyDetector DeleteLogGroup DeleteLogStream",
      "DeleteLookupTable DeleteMetricFilter DeleteQueryDefinition DeleteResourcePolicy",
      "DeleteRetentionPolicy DeleteScheduledQuery DeleteSubscriptionFilter DeleteTransformer",
      "DescribeAccountPolicies DescribeConfigurationTemplates DescribeDeliveries",
      "DescribeDeliveryDestinations DescribeDeliverySources DescribeDestinations",
      "DescribeExportTasks DescribeFieldIndexes DescribeImportTaskBatches DescribeImportTasks",
      "DescribeIndexPolicies DescribeLogGroups DescribeLogStreams DescribeLookupTables",
      "DescribeMetricFilters DescribeQueries DescribeQueryDefinitions DescribeResourcePolicies",
      "DescribeSubscriptionFilters DisassociateKmsKey DisassociateSourceFromS3TableIntegration",
      "FilterLogEvents GetDataProtectionPolicy GetDelivery GetDeliveryDestination",
      "GetDeliveryDestinationPolicy GetDeliverySource GetIntegration GetLogAnomalyDetector",
      "GetLogEvents GetLogFields GetLogGroupFields GetLogObject GetLogRecord GetLookupTable",
      "GetQueryResults GetScheduledQuery GetScheduledQueryHistory GetTransformer",
      "ListAggregateLogGroupSummaries ListAnomalies ListIntegrations ListLogAnomalyDetectors",
      "ListLogGroups ListLogGroupsForQuery ListScheduledQueries",
      "ListSourcesForS3TableIntegration ListTagsForResource ListTagsLogGroup PutAccountPolicy",
      "PutBearerTokenAuthentication PutDataProtectionPolicy PutDeliveryDestination",
      "PutDeliveryDestinationPolicy PutDeliverySource PutDestination PutDestinationPolicy",
      "PutIndexPolicy PutIntegration PutLogEvents PutLogGroupDeletionProtection PutMetricFilter",
      "PutQueryDefinition PutResourcePolicy PutRetentionPolicy PutSubscriptionFilter",
      "PutTransformer StartLiveTail StartQuery StopQuery TagLogGroup TagResource",
      "TestMetricFilter TestTransformer UntagLogGroup UntagResource UpdateAnomaly",
      "UpdateDeliveryConfiguration UpdateLogAnomalyDetector UpdateLookupTable",
      "UpdateScheduledQuery"]),
    ("lookoutequipment", [
      "CreateDataset CreateInferenceScheduler CreateLabel CreateLabelGroup CreateModel",
      "CreateRetrainingScheduler DeleteDataset DeleteInferenceScheduler DeleteLabel",
      "DeleteLabelGroup DeleteModel DeleteResourcePolicy DeleteRetrainingScheduler",
      "DescribeDataIngestionJob DescribeDataset DescribeInferenceScheduler DescribeLabel",
      "DescribeLabelGroup DescribeModel DescribeModelVersion DescribeResourcePolicy",
      "DescribeRetrainingScheduler ImportDataset ImportModelVersion ListDataIngestionJobs",
      "ListDatasets ListInferenceEvents ListInferenceExecutions ListInferenceSchedulers",
      "ListLabelGroups ListLabels ListModelVersions ListModels ListRetrainingSchedulers",
      "ListSensorStatistics ListTagsForResource PutResourcePolicy StartDataIngestionJob",
      "StartInferenceScheduler StartRetrainingScheduler StopInferenceScheduler",
      "StopRetrainingScheduler TagResource UntagResource UpdateActiveModelVersion",
      "UpdateInferenceScheduler UpdateLabelGroup UpdateModel UpdateRetrainingScheduler"])]

end StackAudit.Catalog
