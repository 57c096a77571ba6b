/-!
# Actions of services: M to R

The privileges of the services whose names begin with `m` to `r`.
-/

namespace StackAudit.Catalog

/-- The services from `m` on, each with lines of privileges between blanks. -/
def servicesMToR : List (String × List String) :=
  [("m2", [
      "CancelBatchJobExecution CreateApplication CreateDataSetExportTask",
      "CreateDataSetImportTask CreateDeployment CreateEnvironment DeleteApplication",
      "DeleteApplicationFromEnvironment DeleteEnvironment GetApplication GetApplicationVersion",
      "GetBatchJobExecution GetDataSetDetails GetDataSetExportTask GetDataSetImportTask",
      "GetDeployment GetEnvironment GetSignedBluinsightsUrl ListApplicationVersions",
      "ListApplications ListBatchJobDefinitions ListBatchJobExecutions",
      "ListBatchJobRestartPoints ListDataSetExportHistory ListDataSetImportHistory ListDataSets",
      "ListDeployments ListEngineVersions ListEnvironments ListTagsForResource StartApplication",
      "StartBatchJob StopApplication TagResource UntagResource UpdateApplication",
      "UpdateEnvironment"]),
    ("machinelearning", [
      "AddTags CreateBatchPrediction CreateDataSourceFromRDS CreateDataSourceFromRedshift",
      "CreateDataSourceFromS3 CreateEvaluation CreateMLModel CreateRealtimeEndpoint",
      "DeleteBatchPrediction DeleteDataSource DeleteEvaluation DeleteMLModel",
      "DeleteRealtimeEndpoint DeleteTags DescribeBatchPredictions DescribeDataSources",
      "DescribeEvaluations DescribeMLModels DescribeTags GetBatchPrediction GetDataSource",
      "GetEvaluation GetMLModel Predict UpdateBatchPrediction UpdateDataSource UpdateEvaluation",
      "UpdateMLModel"]),
    ("macie2", [
      "AcceptInvitation BatchGetCustomDataIdentifiers BatchUpdateAutomatedDiscoveryAccounts",
      "CreateAllowList CreateClassificationJob CreateCustomDataIdentifier CreateFindingsFilter",
      "CreateInvitations CreateMember CreateSampleFindings DeclineInvitations DeleteAllowList",
      "DeleteCustomDataIdentifier DeleteFindingsFilter DeleteInvitations DeleteMember",
      "DescribeBuckets DescribeClassificationJob DescribeOrganizationConfiguration DisableMacie",
      "DisableOrganizationAdminAccount DisassociateFromAdministratorAccount",
      "DisassociateFromMasterAccount DisassociateMember EnableMacie",
      "EnableOrganizationAdminAccount GetAdministratorAccount GetAllowList",
      "GetAutomatedDiscoveryConfiguration GetBucketStatistics",
      "GetClassificationExportConfiguration GetClassificationScope GetCustomDataIdentifier",
      "GetFindingStatistics GetFindings GetFindingsFilter GetFindingsPublicationConfiguration",
      "GetInvitationsCount GetMacieSession GetMasterAccount GetMember GetResourceProfile",
      "GetRevealConfiguration GetSensitiveDataOccurrences",
      "GetSensitiveDataOccurrencesAvailability GetSensitivityInspectionTemplate",
      "GetUsageStatistics GetUsageTotals ListAllowLists ListAutomatedDiscoveryAccounts",
      "ListClassificationJobs ListClassificationScopes ListCustomDataIdentifiers ListFindings",
      "ListFindingsFilters ListInvitations ListManagedDataIdentifiers ListMembers",
      "ListOrganizationAdminAccounts ListResourceProfileArtifacts ListResourceProfileDetections",
      "ListSensitivityInspectionTemplates ListTagsForResource",
      "PutClassificationExportConfiguration PutFindingsPublicationConfiguration SearchResources",
      "TagResource TestCustomDataIdentifier UntagResource UpdateAllowList",
      "UpdateAutomatedDiscoveryConfiguration UpdateClassificationJob UpdateClassificationScope",
      "UpdateFindingsFilter UpdateMacieSession UpdateMemberSession",
      "UpdateOrganizationConfiguration UpdateResourceProfile UpdateResourceProfileDetections",
      "UpdateRevealConfiguration UpdateSensitivityInspectionTemplate"]),
    ("managedblockchain", [
      "CreateAccessor CreateMember CreateNetwork CreateNode CreateProposal DeleteAccessor",
      "DeleteMember DeleteNode GetAccessor GetMember GetNetwork GetNode GetProposal",
      "ListAccessors ListInvitations ListMembers ListNetworks ListNodes ListProposalVotes",
      "ListProposals ListTagsForResource RejectInvitation TagResource UntagResource",
      "UpdateMember UpdateNode VoteOnProposal"]),
    ("managedblockchain-query", [
      "BatchGetTokenBalance GetAssetContract GetTokenBalance GetTransaction ListAssetContracts",
      "ListFilteredTransactionEvents ListTokenBalances ListTransactionEvents ListTransactions"]),
    ("marketplacecommerceanalytics", ["GenerateDataSet StartSupportDataExport"]),
    ("mediaconnect", [
      "AddBridgeOutputs AddBridgeSources AddFlowMediaStreams AddFlowOutputs AddFlowSources",
      "AddFlowVpcInterfaces BatchGetRouterInput BatchGetRouterNetworkInterface",
      "BatchGetRouterOutput CreateBridge CreateFlow CreateGateway CreateRouterInput",
      "CreateRouterNetworkInterface CreateRouterOutput DeleteBridge DeleteFlow DeleteGateway",
      "DeleteRouterInput DeleteRouterNetworkInterface DeleteRouterOutput",
      "DeregisterGatewayInstance DescribeBridge DescribeFlow DescribeFlowSourceMetadata",
      "DescribeFlowSourceThumbnail DescribeGateway DescribeGatewayInstance DescribeOffering",
      "DescribeReservation GetRouterInput GetRouterInputSourceMetadata GetRouterInputThumbnail",
      "GetRouterNetworkInterface GetRouterOutput GrantFlowEntitlements ListBridges",
      "ListEntitlements ListFlows ListGatewayInstances ListGateways ListOfferings",
      "ListReservations ListRouterInputs ListRouterNetworkInterfaces ListRouterOutputs",
      "ListTagsForGlobalResource ListTagsForResource PurchaseOffering RemoveBridgeOutput",
      "RemoveBridgeSource RemoveFlowMediaStream RemoveFlowOutput RemoveFlowSource",
      "RemoveFlowVpcInterface RestartRouterInput RestartRouterOutput RevokeFlowEntitlement",
      "StartFlow StartRouterInput StartRouterOutput StopFlow StopRouterInput StopRouterOutput",
      "TagGlobalResource TagResource TakeRouterInput UntagGlobalResource UntagResource",
      "UpdateBridge UpdateBridgeOutput UpdateBridgeSource UpdateBridgeState UpdateFlow",
      "UpdateFlowEntitlement UpdateFlowMediaStream UpdateFlowOutput UpdateFlowSource",
      "UpdateGatewayInstance UpdateRouterInput UpdateRouterNetworkInterface UpdateRouterOutput"]),
    ("mediaconvert", [
      "AssociateCertificate CancelJob CreateJob CreateJobTemplate CreatePreset CreateQueue",
      "CreateResourceShare DeleteJobTemplate DeletePolicy DeletePreset DeleteQueue",
      "DescribeEndpoints DisassociateCertificate GetJob GetJobTemplate GetJobsQueryResults",
      "GetPolicy GetPreset GetQueue ListJobTemplates ListJobs ListPresets ListQueues",
      "ListTagsForResource ListVersions Probe PutPolicy SearchJobs StartJobsQuery TagResource",
      "UntagResource UpdateJobTemplate UpdatePreset UpdateQueue"]),
    ("medialive", [
      "AcceptInputDeviceTransfer BatchDelete BatchStart BatchStop BatchUpdateSchedule",
      "CancelInputDeviceTransfer ClaimDevice CreateChannel CreateChannelPlacementGroup",
      "CreateCloudWatchAlarmTemplate CreateCloudWatchAlarmTemplateGroup CreateCluster",
      "CreateEventBridgeRuleTemplate CreateEventBridgeRuleTemplateGroup CreateInput",
      "CreateInputSecurityGroup CreateMultiplex CreateMultiplexProgram CreateNetwork CreateNode",
      "CreateNodeRegistrationScript CreatePartnerInput CreateSdiSource CreateSignalMap",
      "CreateTags DeleteChannel DeleteChannelPlacementGroup DeleteCloudWatchAlarmTemplate",
      "DeleteCloudWatchAlarmTemplateGroup DeleteCluster DeleteEventBridgeRuleTemplate",
      "DeleteEventBridgeRuleTemplateGroup DeleteInput DeleteInputSecurityGroup DeleteMultiplex",
      "DeleteMultiplexProgram DeleteNetwork DeleteNode DeleteReservation DeleteSchedule",
      "DeleteSdiSource DeleteSignalMap DeleteTags DescribeAccountConfiguration DescribeChannel",
      "DescribeChannelPlacementGroup DescribeCluster DescribeInput DescribeInputDevice",
      "DescribeInputDeviceThumbnail DescribeInputSecurityGroup DescribeMultiplex",
      "DescribeMultiplexProgram DescribeNetwork DescribeNode DescribeOffering",
      "DescribeReservation DescribeSchedule DescribeSdiSource DescribeThumbnails",
      "GetCloudWatchAlarmTemplate GetCloudWatchAlarmTemplateGroup GetEventBridgeRuleTemplate",
      "GetEventBridgeRuleTemplateGroup GetSignalMap ListAlerts ListChannelPlacementGroups",
      "ListChannels ListCloudWatchAlarmTemplateGroups ListCloudWatchAlarmTemplates",
      "ListClusterAlerts ListClusters ListEventBridgeRuleTemplateGroups",
      "ListEventBridgeRuleTemplates ListInputDeviceTransfers ListInputDevices",
      "ListInputSecurityGroups ListInputs ListMultiplexAlerts ListMultiplexPrograms",
      "ListMultiplexes ListNetworks ListNodes ListOfferings ListReservations ListSdiSources",
      "ListSignalMaps ListTagsForResource ListVersions PurchaseOffering RebootInputDevice",
      "RejectInputDeviceTransfer RestartChannelPipelines StartChannel",
      "StartDeleteMonitorDeployment StartInputDevice StartInputDeviceMaintenanceWindow",
      "StartMonitorDeployment StartMultiplex StartUpdateSignalMap StopChannel StopInputDevice",
      "StopMultiplex TransferInputDevice UpdateAccountConfiguration UpdateChannel",
      "UpdateChannelClass UpdateChannelPlacementGroup UpdateCloudWatchAlarmTemplate",
      "UpdateCloudWatchAlarmTemplateGroup UpdateCluster UpdateEventBridgeRuleTemplate",
      "UpdateEventBridgeRuleTemplateGroup UpdateInput UpdateInputDevice",
      "UpdateInputSecurityGroup UpdateMultiplex UpdateMultiplexProgram UpdateNetwork UpdateNode",
      "UpdateNodeState UpdateReservation UpdateSdiSource"]),
    ("mediapackage", [
      "ConfigureLogs CreateChannel CreateHarvestJob CreateOriginEndpoint DeleteChannel",
      "DeleteOriginEndpoint DescribeChannel DescribeHarvestJob DescribeOriginEndpoint",
      "ListChannels ListHarvestJobs ListOriginEndpoints ListTagsForResource",
      "RotateChannelCredentials RotateIngestEndpointCredentials TagResource UntagResource",
      "UpdateChannel UpdateOriginEndpoint"]),
    ("mediapackage-vod", [
      "ConfigureLogs CreateAsset CreatePackagingConfiguration CreatePackagingGroup DeleteAsset",
      "DeletePackagingConfiguration DeletePackagingGroup DescribeAsset",
      "DescribePackagingConfiguration DescribePackagingGroup ListAssets",
      "ListPackagingConfigurations ListPackagingGroups ListTagsForResource TagResource",
      "UntagResource UpdatePackagingGroup"]),
    ("mediapackagev2", [
      "CancelHarvestJob CreateChannel CreateChannelGroup CreateHarvestJob CreateOriginEndpoint",
      "DeleteChannel DeleteChannelGroup DeleteChannelPolicy DeleteOriginEndpoint",
      "DeleteOriginEndpointPolicy GetChannel GetChannelGroup GetChannelPolicy GetHarvestJob",
      "GetOriginEndpoint GetOriginEndpointPolicy ListChannelGroups ListChannels ListHarvestJobs",
      "ListOriginEndpoints ListTagsForResource PutChannelPolicy PutOriginEndpointPolicy",
      "ResetChannelState ResetOriginEndpointState TagResource UntagResource UpdateChannel",
      "UpdateChannelGroup UpdateOriginEndpoint"]),
    ("mediastore", [
      "CreateContainer DeleteContainer DeleteContainerPolicy DeleteCorsPolicy",
      "DeleteLifecyclePolicy DeleteMetricPolicy DeleteObject DescribeContainer DescribeObject",
      "GetContainerPolicy GetCorsPolicy GetLifecyclePolicy GetMetricPolicy GetObject",
      "ListContainers ListItems ListTagsForResource PutContainerPolicy PutCorsPolicy",
      "PutLifecyclePolicy PutMetricPolicy PutObject StartAccessLogging StopAccessLogging",
      "TagResource UntagResource"]),
    ("mediatailor", [
      "ConfigureLogsForChannel ConfigureLogsForPlaybackConfiguration CreateChannel",
      "CreateLiveSource CreatePrefetchSchedule CreateProgram CreateSourceLocation",
      "CreateVodSource DeleteChannel DeleteChannelPolicy DeleteFunction DeleteLiveSource",
      "DeletePlaybackConfiguration DeletePrefetchSchedule DeleteProgram DeleteSourceLocation",
      "DeleteVodSource DescribeChannel DescribeLiveSource DescribeProgram",
      "DescribeSourceLocation DescribeVodSource GetChannelPolicy GetChannelSchedule GetFunction",
      "GetPlaybackConfiguration GetPrefetchSchedule ListAlerts ListChannels ListFunctions",
      "ListLiveSources ListPlaybackConfigurations ListPrefetchSchedules ListSourceLocations",
      "ListTagsForResource ListVodSources PutChannelPolicy PutFunction PutPlaybackConfiguration",
      "StartChannel StopChannel TagResource UntagResource UpdateChannel UpdateLiveSource",
      "UpdateProgram UpdateSourceLocation UpdateVodSource"]),
    ("medical-imaging", [
      "CopyImageSet CreateDatastore DeleteDatastore DeleteImageSet GetDICOMImportJob",
      "GetDatastore GetImageFrame GetImageSet GetImageSetMetadata ListDICOMImportJobs",
      "ListDatastores ListImageSetVersions ListTagsForResource SearchImageSets",
      "StartDICOMImportJob TagResource UntagResource UpdateImageSetMetadata"]),
    ("memorydb", [
      "BatchUpdateCluster CopySnapshot CreateACL CreateCluster CreateMultiRegionCluster",
      "CreateParameterGroup CreateSnapshot CreateSubnetGroup CreateUser DeleteACL DeleteCluster",
      "DeleteMultiRegionCluster DeleteParameterGroup DeleteSnapshot DeleteSubnetGroup",
      "DeleteUser DescribeACLs DescribeClusters DescribeEngineVersions DescribeEvents",
      "DescribeMultiRegionClusters DescribeMultiRegionParameterGroups",
      "DescribeMultiRegionParameters DescribeParameterGroups DescribeParameters",
      "DescribeReservedNodes DescribeReservedNodesOfferings DescribeServiceUpdates",
      "DescribeSnapshots DescribeSubnetGroups DescribeUsers FailoverShard",
      "ListAllowedMultiRegionClusterUpdates ListAllowedNodeTypeUpdates ListTags",
      "PurchaseReservedNodesOffering ResetParameterGroup TagResource UntagResource UpdateACL",
      "UpdateCluster UpdateMultiRegionCluster UpdateParameterGroup UpdateSubnetGroup UpdateUser"]),
    ("mgh", [
      "AssociateCreatedArtifact AssociateDiscoveredResource AssociateSourceResource",
      "CreateHomeRegionControl CreateProgressUpdateStream DeleteHomeRegionControl",
      "DeleteProgressUpdateStream DescribeApplicationState DescribeHomeRegionControls",
      "DescribeMigrationTask DisassociateCreatedArtifact DisassociateDiscoveredResource",
      "DisassociateSourceResource GetHomeRegion ImportMigrationTask ListApplicationStates",
      "ListCreatedArtifacts ListDiscoveredResources ListMigrationTaskUpdates ListMigrationTasks",
      "ListProgressUpdateStreams ListSourceResources NotifyApplicationState",
      "NotifyMigrationTaskState PutResourceAttributes"]),
    ("mgn", [
      "ArchiveApplication ArchiveWave AssociateApplications AssociateSourceServers",
      "ChangeServerLifeCycleState CreateApplication CreateConnector",
      "CreateLaunchConfigurationTemplate CreateNetworkMigrationDefinition",
      "CreateReplicationConfigurationTemplate CreateWave DeleteApplication DeleteConnector",
      "DeleteJob DeleteLaunchConfigurationTemplate DeleteNetworkMigrationDefinition",
      "DeleteReplicationConfigurationTemplate DeleteSourceServer DeleteVcenterClient DeleteWave",
      "DescribeJobLogItems DescribeJobs DescribeLaunchConfigurationTemplates",
      "DescribeReplicationConfigurationTemplates DescribeSourceServers DescribeVcenterClients",
      "DisassociateApplications DisassociateSourceServers DisconnectFromService FinalizeCutover",
      "GetLaunchConfiguration GetNetworkMigrationDefinition",
      "GetNetworkMigrationMapperSegmentConstruct GetReplicationConfiguration InitializeService",
      "ListApplications ListConnectors ListExportErrors ListExports ListImportErrors",
      "ListImportFileEnrichments ListImports ListManagedAccounts ListNetworkMigrationAnalyses",
      "ListNetworkMigrationAnalysisResults ListNetworkMigrationCodeGenerationSegments",
      "ListNetworkMigrationCodeGenerations ListNetworkMigrationDefinitions",
      "ListNetworkMigrationDeployedStacks ListNetworkMigrationDeployments",
      "ListNetworkMigrationExecutions ListNetworkMigrationMapperSegmentConstructs",
      "ListNetworkMigrationMapperSegments ListNetworkMigrationMappingUpdates",
      "ListNetworkMigrationMappings ListSourceServerActions ListTagsForResource",
      "ListTemplateActions ListWaves MarkAsArchived PauseReplication PutSourceServerAction",
      "PutTemplateAction RemoveSourceServerAction RemoveTemplateAction ResumeReplication",
      "RetryDataReplication StartCutover StartExport StartImport StartImportFileEnrichment",
      "StartNetworkMigrationAnalysis StartNetworkMigrationCodeGeneration",
      "StartNetworkMigrationDeployment StartNetworkMigrationMapping",
      "StartNetworkMigrationMappingUpdate StartReplication StartTest StopReplication",
      "TagResource TerminateTargetInstances UnarchiveApplication UnarchiveWave UntagResource",
      "UpdateApplication UpdateConnector UpdateLaunchConfiguration",
      "UpdateLaunchConfigurationTemplate UpdateNetworkMigrationDefinition",
      "UpdateNetworkMigrationMapperSegment UpdateReplicationConfiguration",
      "UpdateReplicationConfigurationTemplate UpdateSourceServer",
      "UpdateSourceServerReplicationType UpdateWave"]),
    ("migrationhub-orchestrator", [
      "CreateTemplate CreateWorkflow CreateWorkflowStep CreateWorkflowStepGroup DeleteTemplate",
      "DeleteWorkflow DeleteWorkflowStep DeleteWorkflowStepGroup GetTemplate GetTemplateStep",
      "GetTemplateStepGroup GetWorkflow GetWorkflowStep GetWorkflowStepGroup ListPlugins",
      "ListTagsForResource ListTemplateStepGroups ListTemplateSteps ListTemplates",
      "ListWorkflowStepGroups ListWorkflowSteps ListWorkflows RetryWorkflowStep StartWorkflow",
      "StopWorkflow TagResource UntagResource UpdateTemplate UpdateWorkflow UpdateWorkflowStep",
      "UpdateWorkflowStepGroup"]),
    ("migrationhub-strategy", [
      "GetApplicationComponentDetails GetApplicationComponentStrategies GetAssessment",
      "GetImportFileTask GetLatestAssessmentId GetPortfolioPreferences GetPortfolioSummary",
      "GetRecommendationReportDetails GetServerDetails GetServerStrategies",
      "ListAnalyzableServers ListApplicationComponents ListCollectors ListImportFileTask",
      "ListServers PutPortfolioPreferences StartAssessment StartImportFileTask",
      "StartRecommendationReportGeneration StopAssessment UpdateApplicationComponentConfig",
      "UpdateServerConfig"]),
    ("mobiletargeting", [
      "CreateApp CreateCampaign CreateEmailTemplate CreateExportJob CreateImportJob",
      "CreateInAppTemplate CreateJourney CreatePushTemplate CreateRecommenderConfiguration",
      "CreateSegment CreateSmsTemplate CreateVoiceTemplate DeleteAdmChannel DeleteApnsChannel",
      "DeleteApnsSandboxChannel DeleteApnsVoipChannel DeleteApnsVoipSandboxChannel DeleteApp",
      "DeleteBaiduChannel DeleteCampaign DeleteEmailChannel DeleteEmailTemplate DeleteEndpoint",
      "DeleteEventStream DeleteGcmChannel DeleteInAppTemplate DeleteJourney DeletePushTemplate",
      "DeleteRecommenderConfiguration DeleteSegment DeleteSmsChannel DeleteSmsTemplate",
      "DeleteUserEndpoints DeleteVoiceChannel DeleteVoiceTemplate GetAdmChannel GetApnsChannel",
      "GetApnsSandboxChannel GetApnsVoipChannel GetApnsVoipSandboxChannel GetApp",
      "GetApplicationDateRangeKpi GetApplicationSettings GetApps GetBaiduChannel GetCampaign",
      "GetCampaignActivities GetCampaignDateRangeKpi GetCampaignVersion GetCampaignVersions",
      "GetCampaigns GetChannels GetEmailChannel GetEmailTemplate GetEndpoint GetEventStream",
      "GetExportJob GetExportJobs GetGcmChannel GetImportJob GetImportJobs GetInAppMessages",
      "GetInAppTemplate GetJourney GetJourneyDateRangeKpi GetJourneyExecutionActivityMetrics",
      "GetJourneyExecutionMetrics GetJourneyRunExecutionActivityMetrics",
      "GetJourneyRunExecutionMetrics GetJourneyRuns GetPushTemplate GetRecommenderConfiguration",
      "GetRecommenderConfigurations GetSegment GetSegmentExportJobs GetSegmentImportJobs",
      "GetSegmentVersion GetSegmentVersions GetSegments GetSmsChannel GetSmsTemplate",
      "GetUserEndpoints GetVoiceChannel GetVoiceTemplate ListJourneys ListTagsForResource",
      "ListTemplateVersions ListTemplates PhoneNumberValidate PutEventStream PutEvents",
      "RemoveAttributes SendMessages SendOTPMessage SendUsersMessages TagResource UntagResource",
      "UpdateAdmChannel UpdateApnsChannel UpdateApnsSandboxChannel UpdateApnsVoipChannel",
      "UpdateApnsVoipSandboxChannel UpdateApplicationSettings UpdateBaiduChannel UpdateCampaign",
      "UpdateEmailChannel UpdateEmailTemplate UpdateEndpoint UpdateEndpointsBatch",
      "UpdateGcmChannel UpdateInAppTemplate UpdateJourney UpdateJourneyState UpdatePushTemplate",
      "UpdateRecommenderConfiguration UpdateSegment UpdateSmsChannel UpdateSmsTemplate",
      "UpdateTemplateActiveVersion UpdateVoiceChannel UpdateVoiceTemplate VerifyOTPMessage"]),
    ("mpa", [
      "CancelSession CreateApprovalTeam CreateIdentitySource DeleteIdentitySource",
      "DeleteInactiveApprovalTeamVersion GetApprovalTeam GetIdentitySource GetPolicyVersion",
      "GetResourcePolicy GetSession ListApprovalTeams ListIdentitySources ListPolicies",
      "ListPolicyVersions ListResourcePolicies ListSessions ListTagsForResource",
      "StartActiveApprovalTeamDeletion StartApprovalTeamBaseline TagResource UntagResource",
      "UpdateApprovalTeam"]),
    ("mq", [
      "CreateBroker CreateConfiguration CreateTags CreateUser DeleteBroker DeleteConfiguration",
      "DeleteTags DeleteUser DescribeBroker DescribeBrokerEngineTypes",
      "DescribeBrokerInstanceOptions DescribeConfiguration DescribeConfigurationRevision",
      "DescribeUser ListBrokers ListConfigurationRevisions ListConfigurations ListTags",
      "ListUsers Promote RebootBroker UpdateBroker UpdateConfiguration UpdateUser"]),
    ("mturk", [
      "AcceptQualificationRequest ApproveAssignment AssociateQualificationWithWorker",
      "CreateAdditionalAssignmentsForHIT CreateHIT CreateHITType CreateHITWithHITType",
      "CreateQualificationType CreateWorkerBlock DeleteHIT DeleteQualificationType",
      "DeleteWorkerBlock DisassociateQualificationFromWorker GetAccountBalance GetAssignment",
      "GetFileUploadURL GetHIT GetQualificationScore GetQualificationType ListAssignmentsForHIT",
      "ListBonusPayments ListHITs ListHITsForQualificationType ListQualificationRequests",
      "ListQualificationTypes ListReviewPolicyResultsForHIT ListReviewableHITs ListWorkerBlocks",
      "ListWorkersWithQualificationType NotifyWorkers RejectAssignment",
      "RejectQualificationRequest SendBonus SendTestEventNotification UpdateExpirationForHIT",
      "UpdateHITReviewStatus UpdateHITTypeOfHIT UpdateNotificationSettings",
      "UpdateQualificationType"]),
    ("neptune-db", [
      "CancelGremlinQuery CancelLoaderJob CancelMLDataProcessingJob CancelMLModelTrainingJob",
      "CancelMLModelTransformJob CancelOpenCypherQuery CreateMLEndpoint DeleteMLEndpoint",
      "DeletePropertygraphStatistics DeleteSparqlStatistics ExecuteFastReset",
      "ExecuteGremlinExplainQuery ExecuteGremlinProfileQuery ExecuteGremlinQuery",
      "ExecuteOpenCypherExplainQuery ExecuteOpenCypherQuery GetEngineStatus",
      "GetGremlinQueryStatus GetLoaderJobStatus GetMLDataProcessingJob GetMLEndpoint",
      "GetMLModelTrainingJob GetMLModelTransformJob GetOpenCypherQueryStatus",
      "GetPropertygraphStatistics GetPropertygraphStream GetPropertygraphSummary",
      "GetRDFGraphSummary GetSparqlStatistics GetSparqlStream ListGremlinQueries ListLoaderJobs",
      "ListMLDataProcessingJobs ListMLEndpoints ListMLModelTrainingJobs",
      "ListMLModelTransformJobs ListOpenCypherQueries ManagePropertygraphStatistics",
      "ManageSparqlStatistics StartLoaderJob StartMLDataProcessingJob StartMLModelTrainingJob",
      "StartMLModelTransformJob"]),
    ("neptune-graph", [
      "CancelExportTask CancelImportTask CancelQuery CreateGraph CreateGraphSnapshot",
      "CreateGraphUsingImportTask CreatePrivateGraphEndpoint DeleteGraph DeleteGraphSnapshot",
      "DeletePrivateGraphEndpoint ExecuteQuery GetExportTask GetGraph GetGraphSnapshot",
      "GetGraphSummary GetImportTask GetPrivateGraphEndpoint GetQuery ListExportTasks",
      "ListGraphSnapshots ListGraphs ListImportTasks ListPrivateGraphEndpoints ListQueries",
      "ListTagsForResource ResetGraph RestoreGraphFromSnapshot StartExportTask StartGraph",
      "StartImportTask StopGraph TagResource UntagResource UpdateGraph"]),
    ("network-firewall", [
      "AcceptNetworkFirewallTransitGatewayAttachment AssociateAvailabilityZones",
      "AssociateFirewallPolicy AssociateSubnets AttachRuleGroupsToProxyConfiguration",
      "CreateFirewall CreateFirewallPolicy CreateProxy CreateProxyConfiguration",
      "CreateProxyRuleGroup CreateProxyRules CreateRuleGroup CreateTLSInspectionConfiguration",
      "CreateVpcEndpointAssociation DeleteFirewall DeleteFirewallPolicy",
      "DeleteNetworkFirewallTransitGatewayAttachment DeleteProxy DeleteProxyConfiguration",
      "DeleteProxyRuleGroup DeleteProxyRules DeleteResourcePolicy DeleteRuleGroup",
      "DeleteTLSInspectionConfiguration DeleteVpcEndpointAssociation DescribeFirewall",
      "DescribeFirewallMetadata DescribeFirewallPolicy DescribeFlowOperation",
      "DescribeLoggingConfiguration DescribeProxy DescribeProxyConfiguration DescribeProxyRule",
      "DescribeProxyRuleGroup DescribeResourcePolicy DescribeRuleGroup",
      "DescribeRuleGroupMetadata DescribeRuleGroupSummary DescribeTLSInspectionConfiguration",
      "DescribeVpcEndpointAssociation DetachRuleGroupsFromProxyConfiguration",
      "DisassociateAvailabilityZones DisassociateSubnets GetAnalysisReportResults",
      "ListAnalysisReports ListFirewallPolicies ListFirewalls ListFlowOperationResults",
      "ListFlowOperations ListProxies ListProxyConfigurations ListProxyRuleGroups",
      "ListRuleGroups ListTLSInspectionConfigurations ListTagsForResource",
      "ListVpcEndpointAssociations PutResourcePolicy",
      "RejectNetworkFirewallTransitGatewayAttachment StartAnalysisReport StartFlowCapture",
      "StartFlowFlush TagResource UntagResource UpdateAvailabilityZoneChangeProtection",
      "UpdateFirewallAnalysisSettings UpdateFirewallDeleteProtection UpdateFirewallDescription",
      "UpdateFirewallEncryptionConfiguration UpdateFirewallPolicy",
      "UpdateFirewallPolicyChangeProtection UpdateLoggingConfiguration UpdateProxy",
      "UpdateProxyConfiguration UpdateProxyRule UpdateProxyRuleGroupPriorities",
      "UpdateProxyRulePriorities UpdateRuleGroup UpdateSubnetChangeProtection",
      "UpdateTLSInspectionConfiguration"]),
    ("networkflowmonitor", [
      "CreateMonitor CreateScope DeleteMonitor DeleteScope GetMonitor",
      "GetQueryResultsMonitorTopContributors GetQueryResultsWorkloadInsightsTopContributors",
      "GetQueryResultsWorkloadInsightsTopContributorsData GetQueryStatusMonitorTopContributors",
      "GetQueryStatusWorkloadInsightsTopContributors",
      "GetQueryStatusWorkloadInsightsTopContributorsData GetScope ListMonitors ListScopes",
      "ListTagsForResource StartQueryMonitorTopContributors",
      "StartQueryWorkloadInsightsTopContributors StartQueryWorkloadInsightsTopContributorsData",
      "StopQueryMonitorTopContributors StopQueryWorkloadInsightsTopContributors",
      "StopQueryWorkloadInsightsTopContributorsData TagResource UntagResource UpdateMonitor",
      "UpdateScope"]),
    ("networkmanager", [
      "AcceptAttachment AssociateConnectPeer AssociateCustomerGateway AssociateLink",
      "AssociateTransitGatewayConnectPeer CreateConnectAttachment CreateConnectPeer",
      "CreateConnection CreateCoreNetwork CreateCoreNetworkPrefixListAssociation CreateDevice",
      "CreateDirectConnectGatewayAttachment CreateGlobalNetwork CreateLink CreateSite",
      "CreateSiteToSiteVpnAttachment CreateTransitGatewayPeering",
      "CreateTransitGatewayRouteTableAttachment CreateVpcAttachment DeleteAttachment",
      "DeleteConnectPeer DeleteConnection DeleteCoreNetwork DeleteCoreNetworkPolicyVersion",
      "DeleteCoreNetworkPrefixListAssociation DeleteDevice DeleteGlobalNetwork DeleteLink",
      "DeletePeering DeleteResourcePolicy DeleteSite DeregisterTransitGateway",
      "DescribeGlobalNetworks DisassociateConnectPeer DisassociateCustomerGateway",
      "DisassociateLink DisassociateTransitGatewayConnectPeer ExecuteCoreNetworkChangeSet",
      "GetConnectAttachment GetConnectPeer GetConnectPeerAssociations GetConnections",
      "GetCoreNetwork GetCoreNetworkChangeEvents GetCoreNetworkChangeSet GetCoreNetworkPolicy",
      "GetCustomerGatewayAssociations GetDevices GetDirectConnectGatewayAttachment",
      "GetLinkAssociations GetLinks GetNetworkResourceCounts GetNetworkResourceRelationships",
      "GetNetworkResources GetNetworkRoutes GetNetworkTelemetry GetResourcePolicy",
      "GetRouteAnalysis GetSiteToSiteVpnAttachment GetSites",
      "GetTransitGatewayConnectPeerAssociations GetTransitGatewayPeering",
      "GetTransitGatewayRegistrations GetTransitGatewayRouteTableAttachment GetVpcAttachment",
      "ListAttachmentRoutingPolicyAssociations ListAttachments ListConnectPeers",
      "ListCoreNetworkPolicyVersions ListCoreNetworkPrefixListAssociations",
      "ListCoreNetworkRoutingInformation ListCoreNetworks ListOrganizationServiceAccessStatus",
      "ListPeerings ListTagsForResource PutAttachmentRoutingPolicyLabel PutCoreNetworkPolicy",
      "PutResourcePolicy RegisterTransitGateway RejectAttachment",
      "RemoveAttachmentRoutingPolicyLabel RestoreCoreNetworkPolicyVersion",
      "StartOrganizationServiceAccessUpdate StartRouteAnalysis TagResource UntagResource",
      "UpdateConnection UpdateCoreNetwork UpdateDevice UpdateDirectConnectGatewayAttachment",
      "UpdateGlobalNetwork UpdateLink UpdateNetworkResourceMetadata UpdateSite",
      "UpdateVpcAttachment"]),
    ("networkmonitor", [
      "CreateMonitor CreateProbe DeleteMonitor DeleteProbe GetMonitor GetProbe ListMonitors",
      "ListTagsForResource TagResource UntagResource UpdateMonitor UpdateProbe"]),
    ("notifications", [
      "AssociateChannel AssociateManagedNotificationAccountContact",
      "AssociateManagedNotificationAdditionalChannel AssociateOrganizationalUnit",
      "CreateEventRule CreateNotificationConfiguration DeleteEventRule",
      "DeleteNotificationConfiguration DeregisterNotificationHub",
      "DisableNotificationsAccessForOrganization DisassociateChannel",
      "DisassociateManagedNotificationAccountContact",
      "DisassociateManagedNotificationAdditionalChannel DisassociateOrganizationalUnit",
      "EnableNotificationsAccessForOrganization GetEventRule GetManagedNotificationChildEvent",
      "GetManagedNotificationConfiguration GetManagedNotificationEvent",
      "GetNotificationConfiguration GetNotificationEvent GetNotificationsAccessForOrganization",
      "ListChannels ListEventRules ListManagedNotificationChannelAssociations",
      "ListManagedNotificationChildEvents ListManagedNotificationConfigurations",
      "ListManagedNotificationEvents ListMemberAccounts ListNotificationConfigurations",
      "ListNotificationEvents ListNotificationHubs ListOrganizationalUnits ListTagsForResource",
      "RegisterNotificationHub TagResource UntagResource UpdateEventRule",
      "UpdateNotificationConfiguration"]),
    ("notifications-contacts", [
      "ActivateEmailContact CreateEmailContact DeleteEmailContact GetEmailContact",
      "ListEmailContacts ListTagsForResource SendActivationCode TagResource UntagResource"]),
    ("nova-act", [
      "CreateAct CreateSession CreateWorkflowDefinition CreateWorkflowRun",
      "DeleteWorkflowDefinition DeleteWorkflowRun GetWorkflowDefinition GetWorkflowRun",
      "InvokeActStep ListActs ListModels ListSessions ListWorkflowDefinitions ListWorkflowRuns",
      "UpdateAct UpdateWorkflowRun"]),
    ("oam", [
      "CreateLink CreateSink DeleteLink DeleteSink GetLink GetSink GetSinkPolicy",
      "ListAttachedLinks ListLinks ListSinks ListTagsForResource PutSinkPolicy TagResource",
      "UntagResource UpdateLink"]),
    ("observabilityadmin", [
      "CreateCentralizationRuleForOrganization CreateS3TableIntegration CreateTelemetryPipeline",
      "CreateTelemetryRule CreateTelemetryRuleForOrganization",
      "DeleteCentralizationRuleForOrganization DeleteS3TableIntegration DeleteTelemetryPipeline",
      "DeleteTelemetryRule DeleteTelemetryRuleForOrganization",
      "GetCentralizationRuleForOrganization GetS3TableIntegration GetTelemetryEnrichmentStatus",
      "GetTelemetryEvaluationStatus GetTelemetryEvaluationStatusForOrganization",
      "GetTelemetryPipeline GetTelemetryRule GetTelemetryRuleForOrganization",
      "ListCentralizationRulesForOrganization ListResourceTelemetry",
      "ListResourceTelemetryForOrganization ListS3TableIntegrations ListTagsForResource",
      "ListTelemetryPipelines ListTelemetryRules ListTelemetryRulesForOrganization",
      "StartTelemetryEnrichment StartTelemetryEvaluation",
      "StartTelemetryEvaluationForOrganization StopTelemetryEnrichment StopTelemetryEvaluation",
      "StopTelemetryEvaluationForOrganization TagResource TestTelemetryPipeline UntagResource",
      "UpdateCentralizationRuleForOrganization UpdateTelemetryPipeline UpdateTelemetryRule",
      "UpdateTelemetryRuleForOrganization ValidateTelemetryPipelineConfiguration"]),
    ("odb", [
      "AcceptMarketplaceRegistration AssociateIamRoleToResource CreateCloudAutonomousVmCluster",
      "CreateCloudExadataInfrastructure CreateCloudVmCluster CreateOdbNetwork",
      "CreateOdbPeeringConnection DeleteCloudAutonomousVmCluster",
      "DeleteCloudExadataInfrastructure DeleteCloudVmCluster DeleteOdbNetwork",
      "DeleteOdbPeeringConnection DisassociateIamRoleFromResource GetCloudAutonomousVmCluster",
      "GetCloudExadataInfrastructure GetCloudExadataInfrastructureUnallocatedResources",
      "GetCloudVmCluster GetDbNode GetDbServer GetOciOnboardingStatus GetOdbNetwork",
      "GetOdbPeeringConnection InitializeService ListAutonomousVirtualMachines",
      "ListCloudAutonomousVmClusters ListCloudExadataInfrastructures ListCloudVmClusters",
      "ListDbNodes ListDbServers ListDbSystemShapes ListGiVersions ListOdbNetworks",
      "ListOdbPeeringConnections ListSystemVersions ListTagsForResource RebootDbNode",
      "StartDbNode StopDbNode TagResource UntagResource UpdateCloudExadataInfrastructure",
      "UpdateOdbNetwork UpdateOdbPeeringConnection"]),
    ("omics", [
      "AbortMultipartReadSetUpload AcceptShare BatchDeleteReadSet CancelAnnotationImportJob",
      "CancelRun CancelRunBatch CancelVariantImportJob CompleteMultipartReadSetUpload",
      "CreateAnnotationStore CreateAnnotationStoreVersion CreateConfiguration",
      "CreateMultipartReadSetUpload CreateReferenceStore CreateRunCache CreateRunGroup",
      "CreateSequenceStore CreateShare CreateVariantStore CreateWorkflow CreateWorkflowVersion",
      "DeleteAnnotationStore DeleteAnnotationStoreVersions DeleteBatch DeleteConfiguration",
      "DeleteReference DeleteReferenceStore DeleteRun DeleteRunBatch DeleteRunCache",
      "DeleteRunGroup DeleteS3AccessPolicy DeleteSequenceStore DeleteShare DeleteVariantStore",
      "DeleteWorkflow DeleteWorkflowVersion GetAnnotationImportJob GetAnnotationStore",
      "GetAnnotationStoreVersion GetBatch GetConfiguration GetReadSet GetReadSetActivationJob",
      "GetReadSetExportJob GetReadSetImportJob GetReadSetMetadata GetReference",
      "GetReferenceImportJob GetReferenceMetadata GetReferenceStore GetRun GetRunCache",
      "GetRunGroup GetRunTask GetS3AccessPolicy GetSequenceStore GetShare GetVariantImportJob",
      "GetVariantStore GetWorkflow GetWorkflowVersion ListAnnotationImportJobs",
      "ListAnnotationStoreVersions ListAnnotationStores ListBatch ListConfigurations",
      "ListMultipartReadSetUploads ListReadSetActivationJobs ListReadSetExportJobs",
      "ListReadSetImportJobs ListReadSetUploadParts ListReadSets ListReferenceImportJobs",
      "ListReferenceStores ListReferences ListRunCaches ListRunGroups ListRunTasks ListRuns",
      "ListRunsInBatch ListSequenceStores ListShares ListTagsForResource ListVariantImportJobs",
      "ListVariantStores ListWorkflowVersions ListWorkflows PutS3AccessPolicy",
      "StartAnnotationImportJob StartReadSetActivationJob StartReadSetExportJob",
      "StartReadSetImportJob StartReferenceImportJob StartRun StartRunBatch",
      "StartVariantImportJob TagResource UntagResource UpdateAnnotationStore",
      "UpdateAnnotationStoreVersion UpdateRunCache UpdateRunGroup UpdateSequenceStore",
      "UpdateVariantStore UpdateWorkflow UpdateWorkflowVersion UploadReadSetPart"]),
    ("organizations", [
      "AcceptHandshake AttachPolicy CancelHandshake CloseAccount CreateAccount",
      "CreateGovCloudAccount CreateOrganization CreateOrganizationalUnit CreatePolicy",
      "DeclineHandshake DeleteOrganization DeleteOrganizationalUnit DeletePolicy",
      "DeleteResourcePolicy DeregisterDelegatedAdministrator DescribeAccount",
      "DescribeCreateAccountStatus DescribeEffectivePolicy DescribeHandshake",
      "DescribeOrganization DescribeOrganizationalUnit DescribePolicy DescribeResourcePolicy",
      "DescribeResponsibilityTransfer DetachPolicy DisableAWSServiceAccess DisablePolicyType",
      "EnableAWSServiceAccess EnableAllFeatures EnablePolicyType InviteAccountToOrganization",
      "InviteOrganizationToTransferResponsibility LeaveOrganization",
      "ListAWSServiceAccessForOrganization ListAccounts ListAccountsForParent",
      "ListAccountsWithInvalidEffectivePolicy ListChildren ListCreateAccountStatus",
      "ListDelegatedAdministrators ListDelegatedServicesForAccount",
      "ListEffectivePolicyValidationErrors ListHandshakesForAccount",
      "ListHandshakesForOrganization ListInboundResponsibilityTransfers",
      "ListOrganizationalUnitsForParent ListOutboundResponsibilityTransfers ListParents",
      "ListPolicies ListPoliciesForTarget ListRoots ListTagsForResource ListTargetsForPolicy",
      "MoveAccount PutResourcePolicy RegisterDelegatedAdministrator",
      "RemoveAccountFromOrganization TagResource TerminateResponsibilityTransfer UntagResource",
      "UpdateOrganizationalUnit UpdatePolicy UpdateResponsibilityTransfer"]),
    ("osis", [
      "CreatePipeline CreatePipelineEndpoint DeletePipeline DeletePipelineEndpoint",
      "DeleteResourcePolicy GetPipeline GetPipelineBlueprint GetPipelineChangeProgress",
      "GetResourcePolicy ListPipelineBlueprints ListPipelineEndpointConnections",
      "ListPipelineEndpoints ListPipelines ListTagsForResource PutResourcePolicy",
      "RevokePipelineEndpointConnections StartPipeline StopPipeline TagResource UntagResource",
      "UpdatePipeline ValidatePipeline"]),
    ("outposts", [
      "CancelCapacityTask CancelOrder CreateOrder CreateOutpost CreateRenewal CreateSite",
      "DeleteOutpost DeleteSite GetCapacityTask GetCatalogItem GetConnection GetOrder",
      "GetOutpost GetOutpostBillingInformation GetOutpostInstanceTypes",
      "GetOutpostSupportedInstanceTypes GetRenewalPricing GetSite GetSiteAddress",
      "ListAssetInstances ListAssets ListBlockingInstancesForCapacityTask ListCapacityTasks",
      "ListCatalogItems ListOrders ListOutposts ListSites ListTagsForResource StartCapacityTask",
      "StartConnection StartOutpostDecommission TagResource UntagResource UpdateOutpost",
      "UpdateSite UpdateSiteAddress UpdateSiteRackPhysicalProperties"]),
    ("panorama", [
      "CreateApplicationInstance CreateJobForDevices CreateNodeFromTemplateJob CreatePackage",
      "CreatePackageImportJob DeleteDevice DeletePackage DeregisterPackageVersion",
      "DescribeApplicationInstance DescribeApplicationInstanceDetails DescribeDevice",
      "DescribeDeviceJob DescribeNode DescribeNodeFromTemplateJob DescribePackage",
      "DescribePackageImportJob DescribePackageVersion ListApplicationInstanceDependencies",
      "ListApplicationInstanceNodeInstances ListApplicationInstances ListDevices",
      "ListDevicesJobs ListNodeFromTemplateJobs ListNodes ListPackageImportJobs ListPackages",
      "ListTagsForResource ProvisionDevice RegisterPackageVersion RemoveApplicationInstance",
      "SignalApplicationInstanceNodeInstances TagResource UntagResource UpdateDeviceMetadata"]),
    ("partnercentral-account", [
      "AcceptConnectionInvitation AssociateAwsTrainingCertificationEmailDomain CancelConnection",
      "CancelConnectionInvitation CancelProfileUpdateTask CreateConnectionInvitation",
      "CreatePartner DisassociateAwsTrainingCertificationEmailDomain GetAllianceLeadContact",
      "GetConnection GetConnectionInvitation GetConnectionPreferences GetPartner",
      "GetProfileUpdateTask GetProfileVisibility GetVerification ListConnectionInvitations",
      "ListConnections ListPartners ListTagsForResource PutAllianceLeadContact",
      "PutProfileVisibility RejectConnectionInvitation SendEmailVerificationCode",
      "StartProfileUpdateTask StartVerification TagResource UntagResource",
      "UpdateConnectionPreferences"]),
    ("partnercentral-benefits", [
      "AmendBenefitApplication AssociateBenefitApplicationResource CancelBenefitApplication",
      "CreateBenefitApplication DisassociateBenefitApplicationResource GetBenefit",
      "GetBenefitAllocation GetBenefitApplication ListBenefitAllocations",
      "ListBenefitApplications ListBenefits ListTagsForResource RecallBenefitApplication",
      "SubmitBenefitApplication TagResource UntagResource UpdateBenefitApplication"]),
    ("partnercentral-channel", [
      "AcceptChannelHandshake CancelChannelHandshake CreateChannelHandshake",
      "CreateProgramManagementAccount CreateRelationship DeleteProgramManagementAccount",
      "DeleteRelationship GetRelationship ListChannelHandshakes ListProgramManagementAccounts",
      "ListRelationships ListTagsForResource RejectChannelHandshake TagResource UntagResource",
      "UpdateProgramManagementAccount UpdateRelationship"]),
    ("partnercentral-selling", [
      "AcceptEngagementInvitation AssignOpportunity AssociateOpportunity CreateEngagement",
      "CreateEngagementContext CreateEngagementInvitation CreateOpportunity",
      "CreateResourceSnapshot CreateResourceSnapshotJob DeleteResourceSnapshotJob",
      "DisassociateOpportunity GetAwsOpportunitySummary GetEngagement GetEngagementInvitation",
      "GetOpportunity GetResourceSnapshot GetResourceSnapshotJob GetSellingSystemSettings",
      "ListEngagementByAcceptingInvitationTasks ListEngagementFromOpportunityTasks",
      "ListEngagementInvitations ListEngagementMembers ListEngagementResourceAssociations",
      "ListEngagements ListOpportunities ListOpportunityFromEngagementTasks",
      "ListResourceSnapshotJobs ListResourceSnapshots ListSolutions ListTagsForResource",
      "PutSellingSystemSettings RejectEngagementInvitation",
      "StartEngagementByAcceptingInvitationTask StartEngagementFromOpportunityTask",
      "StartOpportunityFromEngagementTask StartResourceSnapshotJob StopResourceSnapshotJob",
      "SubmitOpportunity TagResource UntagResource UpdateEngagementContext UpdateOpportunity"]),
    ("payment-cryptography", [
      "AddKeyReplicationRegions AssociateMpaTeam CreateAlias CreateKey DecryptData DeleteAlias",
      "DeleteKey DeleteResourcePolicy DisableDefaultKeyReplicationRegions DisassociateMpaTeam",
      "EnableDefaultKeyReplicationRegions EncryptData ExportKey GenerateAs2805KekValidation",
      "GenerateCardValidationData GenerateMac GenerateMacEmvPinChange GeneratePinData GetAlias",
      "GetCertificateSigningRequest GetDefaultKeyReplicationRegions GetKey",
      "GetMpaTeamAssociation GetParametersForExport GetParametersForImport",
      "GetPublicKeyCertificate GetResourcePolicy ImportKey ListAliases ListKeys",
      "ListTagsForResource PutResourcePolicy ReEncryptData RemoveKeyReplicationRegions",
      "RestoreKey StartKeyUsage StopKeyUsage TagResource TranslateKeyMaterial TranslatePinData",
      "UntagResource UpdateAlias VerifyAuthRequestCryptogram VerifyCardValidationData VerifyMac",
      "VerifyPinData"]),
    ("pca-connector-ad", [
      "CreateConnector CreateDirectoryRegistration CreateServicePrincipalName CreateTemplate",
      "CreateTemplateGroupAccessControlEntry DeleteConnector DeleteDirectoryRegistration",
      "DeleteServicePrincipalName DeleteTemplate DeleteTemplateGroupAccessControlEntry",
      "GetConnector GetDirectoryRegistration GetServicePrincipalName GetTemplate",
      "GetTemplateGroupAccessControlEntry ListConnectors ListDirectoryRegistrations",
      "ListServicePrincipalNames ListTagsForResource ListTemplateGroupAccessControlEntries",
      "ListTemplates TagResource UntagResource UpdateTemplate",
      "UpdateTemplateGroupAccessControlEntry"]),
    ("pca-connector-scep", [
      "CreateChallenge CreateConnector DeleteChallenge DeleteConnector GetChallengeMetadata",
      "GetChallengePassword GetConnector ListChallengeMetadata ListConnectors",
      "ListTagsForResource TagResource UntagResource"]),
    ("pcs", [
      "CreateCluster CreateComputeNodeGroup CreateQueue DeleteCluster DeleteComputeNodeGroup",
      "DeleteQueue GetCluster GetComputeNodeGroup GetQueue ListClusters ListComputeNodeGroups",
      "ListQueues ListTagsForResource RegisterComputeNodeGroupInstance TagResource",
      "UntagResource UpdateCluster UpdateComputeNodeGroup UpdateQueue"]),
    ("personalize", [
      "CreateBatchInferenceJob CreateBatchSegmentJob CreateCampaign CreateDataDeletionJob",
      "CreateDataset CreateDatasetExportJob CreateDatasetGroup CreateDatasetImportJob",
      "CreateEventTracker CreateFilter CreateMetricAttribution CreateRecommender CreateSchema",
      "CreateSolution CreateSolutionVersion DeleteCampaign DeleteDataset DeleteDatasetGroup",
      "DeleteEventTracker DeleteFilter DeleteMetricAttribution DeleteRecommender DeleteSchema",
      "DeleteSolution DescribeAlgorithm DescribeBatchInferenceJob DescribeBatchSegmentJob",
      "DescribeCampaign DescribeDataDeletionJob DescribeDataset DescribeDatasetExportJob",
      "DescribeDatasetGroup DescribeDatasetImportJob DescribeEventTracker",
      "DescribeFeatureTransformation DescribeFilter DescribeMetricAttribution DescribeRecipe",
      "DescribeRecommender DescribeSchema DescribeSolution DescribeSolutionVersion",
      "GetActionRecommendations GetPersonalizedRanking GetRecommendations GetSolutionMetrics",
      "ListBatchInferenceJobs ListBatchSegmentJobs ListCampaigns ListDataDeletionJobs",
      "ListDatasetExportJobs ListDatasetGroups ListDatasetImportJobs ListDatasets",
      "ListEventTrackers ListFilters ListMetricAttributionMetrics ListMetricAttributions",
      "ListRecipes ListRecommenders ListSchemas ListSolutionVersions ListSolutions",
      "ListTagsForResource PutActionInteractions PutActions PutEvents PutItems PutUsers",
      "StartRecommender StopRecommender StopSolutionVersionCreation TagResource UntagResource",
      "UpdateCampaign UpdateDataset UpdateMetricAttribution UpdateRecommender UpdateSolution"]),
    ("pi", [
      "CreatePerformanceAnalysisReport DeletePerformanceAnalysisReport DescribeDimensionKeys",
      "GetDimensionKeyDetails GetPerformanceAnalysisReport GetResourceMetadata",
      "GetResourceMetrics ListAvailableResourceDimensions ListAvailableResourceMetrics",
      "ListPerformanceAnalysisReports ListTagsForResource TagResource UntagResource"]),
    ("pipes", [
      "CreatePipe DeletePipe DescribePipe ListPipes ListTagsForResource StartPipe StopPipe",
      "TagResource UntagResource UpdatePipe"]),
    ("polly", [
      "DeleteLexicon DescribeVoices GetLexicon GetSpeechSynthesisTask ListLexicons",
      "ListSpeechSynthesisTasks PutLexicon StartSpeechSynthesisStream StartSpeechSynthesisTask",
      "SynthesizeSpeech"]),
    ("pricing", [
      "DescribeServices GetAttributeValues GetPriceListFileUrl GetProducts ListPriceLists"]),
    ("profile", [
      "AddProfileKey BatchGetCalculatedAttributeForProfile BatchGetProfile",
      "CreateCalculatedAttributeDefinition CreateDomain CreateDomainLayout CreateEventStream",
      "CreateEventTrigger CreateIntegrationWorkflow CreateProfile CreateRecommender",
      "CreateRecommenderFilter CreateRecommenderSchema CreateSegmentDefinition",
      "CreateSegmentEstimate CreateSegmentSnapshot CreateUploadJob",
      "DeleteCalculatedAttributeDefinition DeleteDomain DeleteDomainLayout",
      "DeleteDomainObjectType DeleteEventStream DeleteEventTrigger DeleteIntegration",
      "DeleteProfile DeleteProfileKey DeleteProfileObject DeleteProfileObjectType",
      "DeleteRecommender DeleteRecommenderFilter DeleteRecommenderSchema",
      "DeleteSegmentDefinition DeleteWorkflow DetectProfileObjectType GetAutoMergingPreview",
      "GetCalculatedAttributeDefinition GetCalculatedAttributeForProfile GetDomain",
      "GetDomainLayout GetDomainObjectType GetEventStream GetEventTrigger",
      "GetIdentityResolutionJob GetIntegration GetMatches GetObjectTypeAttributeStatistics",
      "GetProfileHistoryRecord GetProfileObjectType GetProfileObjectTypeTemplate",
      "GetProfileRecommendations GetRecommender GetRecommenderFilter GetRecommenderSchema",
      "GetSegmentDefinition GetSegmentEstimate GetSegmentMembership GetSegmentSnapshot",
      "GetSimilarProfiles GetUploadJob GetUploadJobPath GetWorkflow GetWorkflowSteps",
      "ListAccountIntegrations ListCalculatedAttributeDefinitions",
      "ListCalculatedAttributesForProfile ListDomainLayouts ListDomainObjectTypes ListDomains",
      "ListEventStreams ListEventTriggers ListIdentityResolutionJobs ListIntegrations",
      "ListObjectTypeAttributeValues ListObjectTypeAttributes ListProfileAttributeValues",
      "ListProfileHistoryRecords ListProfileObjectTypeTemplates ListProfileObjectTypes",
      "ListProfileObjects ListRecommenderFilters ListRecommenderRecipes ListRecommenderSchemas",
      "ListRecommenders ListRuleBasedMatches ListSegmentDefinitions ListTagsForResource",
      "ListUploadJobs ListWorkflows MergeProfiles PutDomainObjectType PutIntegration",
      "PutProfileObject PutProfileObjectType SearchProfiles StartRecommender StartUploadJob",
      "StopRecommender StopUploadJob TagResource UntagResource",
      "UpdateCalculatedAttributeDefinition UpdateDomain UpdateDomainLayout UpdateEventTrigger",
      "UpdateProfile UpdateRecommender"]),
    ("proton", [
      "AcceptEnvironmentAccountConnection CancelComponentDeployment CancelEnvironmentDeployment",
      "CancelServiceInstanceDeployment CancelServicePipelineDeployment CreateComponent",
      "CreateEnvironment CreateEnvironmentAccountConnection CreateEnvironmentTemplate",
      "CreateEnvironmentTemplateVersion CreateRepository CreateService CreateServiceInstance",
      "CreateServiceSyncConfig CreateServiceTemplate CreateServiceTemplateVersion",
      "CreateTemplateSyncConfig DeleteComponent DeleteDeployment DeleteEnvironment",
      "DeleteEnvironmentAccountConnection DeleteEnvironmentTemplate",
      "DeleteEnvironmentTemplateVersion DeleteRepository DeleteService DeleteServiceSyncConfig",
      "DeleteServiceTemplate DeleteServiceTemplateVersion DeleteTemplateSyncConfig",
      "GetAccountSettings GetComponent GetDeployment GetEnvironment",
      "GetEnvironmentAccountConnection GetEnvironmentTemplate GetEnvironmentTemplateVersion",
      "GetRepository GetRepositorySyncStatus GetResourcesSummary GetService GetServiceInstance",
      "GetServiceInstanceSyncStatus GetServiceSyncBlockerSummary GetServiceSyncConfig",
      "GetServiceTemplate GetServiceTemplateVersion GetTemplateSyncConfig GetTemplateSyncStatus",
      "ListComponentOutputs ListComponentProvisionedResources ListComponents ListDeployments",
      "ListEnvironmentAccountConnections ListEnvironmentOutputs",
      "ListEnvironmentProvisionedResources ListEnvironmentTemplateVersions",
      "ListEnvironmentTemplates ListEnvironments ListRepositories ListRepositorySyncDefinitions",
      "ListServiceInstanceOutputs ListServiceInstanceProvisionedResources ListServiceInstances",
      "ListServicePipelineOutputs ListServicePipelineProvisionedResources",
      "ListServiceTemplateVersions ListServiceTemplates ListServices ListTagsForResource",
      "NotifyResourceDeploymentStatusChange RejectEnvironmentAccountConnection TagResource",
      "UntagResource UpdateAccountSettings UpdateComponent UpdateEnvironment",
      "UpdateEnvironmentAccountConnection UpdateEnvironmentTemplate",
      "UpdateEnvironmentTemplateVersion UpdateService UpdateServiceInstance",
      "UpdateServicePipeline UpdateServiceSyncBlocker UpdateServiceSyncConfig",
      "UpdateServiceTemplate UpdateServiceTemplateVersion UpdateTemplateSyncConfig"]),
    ("qapps", [
      "AssociateLibraryItemReview AssociateQAppWithUser BatchCreateCategory BatchDeleteCategory",
      "BatchUpdateCategory CreateLibraryItem CreatePresignedUrl CreateQApp DeleteLibraryItem",
      "DeleteQApp DescribeQAppPermissions DisassociateLibraryItemReview",
      "DisassociateQAppFromUser ExportQAppSessionData GetLibraryItem GetQApp GetQAppSession",
      "GetQAppSessionMetadata ImportDocument ListCategories ListLibraryItems",
      "ListQAppSessionData ListQApps ListTagsForResource PredictQApp StartQAppSession",
      "StopQAppSession TagResource UntagResource UpdateLibraryItem UpdateLibraryItemMetadata",
      "UpdateQApp UpdateQAppPermissions UpdateQAppSession UpdateQAppSessionMetadata"]),
    ("qbusiness", [
      "AssociatePermission BatchDeleteDocument BatchPutDocument CancelSubscription Chat",
      "ChatSync CheckDocumentAccess CreateAnonymousWebExperienceUrl CreateApplication",
      "CreateChatResponseConfiguration CreateDataAccessor CreateDataSource CreateIndex",
      "CreatePlugin CreateRetriever CreateSubscription CreateUser CreateWebExperience",
      "DeleteApplication DeleteAttachment DeleteChatControlsConfiguration",
      "DeleteChatResponseConfiguration DeleteConversation DeleteDataAccessor DeleteDataSource",
      "DeleteGroup DeleteIndex DeletePlugin DeleteRetriever DeleteUser DeleteWebExperience",
      "DisassociatePermission GetApplication GetChatControlsConfiguration",
      "GetChatResponseConfiguration GetDataAccessor GetDataSource GetDocumentContent GetGroup",
      "GetIndex GetMedia GetPlugin GetPolicy GetRetriever GetUser GetWebExperience",
      "ListApplications ListAttachments ListChatResponseConfigurations ListConversations",
      "ListDataAccessors ListDataSourceSyncJobs ListDataSources ListDocuments ListGroups",
      "ListIndices ListMessages ListPluginActions ListPluginTypeActions ListPluginTypeMetadata",
      "ListPlugins ListRetrievers ListSubscriptions ListTagsForResource ListWebExperiences",
      "PutFeedback PutGroup SearchRelevantContent StartDataSourceSyncJob StopDataSourceSyncJob",
      "TagResource UntagResource UpdateApplication UpdateChatControlsConfiguration",
      "UpdateChatResponseConfiguration UpdateDataAccessor UpdateDataSource UpdateIndex",
      "UpdatePlugin UpdateRetriever UpdateSubscription UpdateUser UpdateWebExperience"]),
    ("quicksight", [
      "BatchCreateTopicReviewedAnswer BatchDeleteTopicReviewedAnswer CancelIngestion",
      "CreateAccountCustomization CreateAccountSubscription CreateActionConnector",
      "CreateAnalysis CreateBrand CreateCustomPermissions CreateDashboard CreateDataSet",
      "CreateDataSource CreateFolder CreateFolderMembership CreateGroup CreateGroupMembership",
      "CreateIAMPolicyAssignment CreateIngestion CreateNamespace CreateRefreshSchedule",
      "CreateRoleMembership CreateTemplate CreateTemplateAlias CreateTheme CreateThemeAlias",
      "CreateTopic CreateTopicRefreshSchedule CreateVPCConnection DeleteAccountCustomPermission",
      "DeleteAccountCustomization DeleteAccountSubscription DeleteActionConnector",
      "DeleteAnalysis DeleteBrand DeleteBrandAssignment DeleteCustomPermissions DeleteDashboard",
      "DeleteDataSet DeleteDataSetRefreshProperties DeleteDataSource",
      "DeleteDefaultQBusinessApplication DeleteFolder DeleteFolderMembership DeleteGroup",
      "DeleteGroupMembership DeleteIAMPolicyAssignment DeleteIdentityPropagationConfig",
      "DeleteNamespace DeleteRefreshSchedule DeleteRoleCustomPermission DeleteRoleMembership",
      "DeleteTemplate DeleteTemplateAlias DeleteTheme DeleteThemeAlias DeleteTopic",
      "DeleteTopicRefreshSchedule DeleteUser DeleteUserByPrincipalId DeleteUserCustomPermission",
      "DeleteVPCConnection DescribeAccountCustomPermission DescribeAccountCustomization",
      "DescribeAccountSettings DescribeAccountSubscription DescribeActionConnector",
      "DescribeActionConnectorPermissions DescribeAnalysis DescribeAnalysisDefinition",
      "DescribeAnalysisPermissions DescribeAssetBundleExportJob DescribeAssetBundleImportJob",
      "DescribeAutomationJob DescribeBrand DescribeBrandAssignment",
      "DescribeBrandPublishedVersion DescribeCustomPermissions DescribeDashboard",
      "DescribeDashboardDefinition DescribeDashboardPermissions DescribeDashboardSnapshotJob",
      "DescribeDashboardSnapshotJobResult DescribeDashboardsQAConfiguration DescribeDataSet",
      "DescribeDataSetPermissions DescribeDataSetRefreshProperties DescribeDataSource",
      "DescribeDataSourcePermissions DescribeDefaultQBusinessApplication DescribeFolder",
      "DescribeFolderPermissions DescribeFolderResolvedPermissions DescribeGroup",
      "DescribeGroupMembership DescribeIAMPolicyAssignment DescribeIngestion",
      "DescribeIpRestriction DescribeKeyRegistration DescribeNamespace",
      "DescribeQPersonalizationConfiguration DescribeQuickSightQSearchConfiguration",
      "DescribeRefreshSchedule DescribeRoleCustomPermission DescribeSelfUpgradeConfiguration",
      "DescribeTemplate DescribeTemplateAlias DescribeTemplateDefinition",
      "DescribeTemplatePermissions DescribeTheme DescribeThemeAlias DescribeThemePermissions",
      "DescribeTopic DescribeTopicPermissions DescribeTopicRefresh DescribeTopicRefreshSchedule",
      "DescribeUser DescribeVPCConnection GenerateEmbedUrlForAnonymousUser",
      "GenerateEmbedUrlForRegisteredUser GenerateEmbedUrlForRegisteredUserWithIdentity",
      "GetDashboardEmbedUrl GetFlowMetadata GetFlowPermissions GetIdentityContext",
      "GetSessionEmbedUrl ListActionConnectors ListAnalyses ListAssetBundleExportJobs",
      "ListAssetBundleImportJobs ListBrands ListCustomPermissions ListDashboardVersions",
      "ListDashboards ListDataSets ListDataSources ListFlows ListFolderMembers ListFolders",
      "ListFoldersForResource ListGroupMemberships ListGroups ListIAMPolicyAssignments",
      "ListIAMPolicyAssignmentsForUser ListIdentityPropagationConfigs ListIngestions",
      "ListNamespaces ListRefreshSchedules ListRoleMemberships ListSelfUpgrades",
      "ListTagsForResource ListTemplateAliases ListTemplateVersions ListTemplates",
      "ListThemeAliases ListThemeVersions ListThemes ListTopicRefreshSchedules",
      "ListTopicReviewedAnswers ListTopics ListUserGroups ListUsers ListVPCConnections",
      "PredictQAResults PutDataSetRefreshProperties RegisterUser RestoreAnalysis",
      "SearchActionConnectors SearchAnalyses SearchDashboards SearchDataSets SearchDataSources",
      "SearchFlows SearchFolders SearchGroups SearchTopics StartAssetBundleExportJob",
      "StartAssetBundleImportJob StartAutomationJob StartDashboardSnapshotJob",
      "StartDashboardSnapshotJobSchedule TagResource UntagResource",
      "UpdateAccountCustomPermission UpdateAccountCustomization UpdateAccountSettings",
      "UpdateActionConnector UpdateActionConnectorPermissions UpdateAnalysis",
      "UpdateAnalysisPermissions UpdateApplicationWithTokenExchangeGrant UpdateBrand",
      "UpdateBrandAssignment UpdateBrandPublishedVersion UpdateCustomPermissions",
      "UpdateDashboard UpdateDashboardLinks UpdateDashboardPermissions",
      "UpdateDashboardPublishedVersion UpdateDashboardsQAConfiguration UpdateDataSet",
      "UpdateDataSetPermissions UpdateDataSource UpdateDataSourcePermissions",
      "UpdateDefaultQBusinessApplication UpdateFlowPermissions UpdateFolder",
      "UpdateFolderPermissions UpdateGroup UpdateIAMPolicyAssignment",
      "UpdateIdentityPropagationConfig UpdateIpRestriction UpdateKeyRegistration",
      "UpdatePublicSharingSettings UpdateQPersonalizationConfiguration",
      "UpdateQuickSightQSearchConfiguration UpdateRefreshSchedule UpdateRoleCustomPermission",
      "UpdateSPICECapacityConfiguration UpdateSelfUpgrade UpdateSelfUpgradeConfiguration",
      "UpdateTemplate UpdateTemplateAlias UpdateTemplatePermissions UpdateTheme",
      "UpdateThemeAlias UpdateThemePermissions UpdateTopic UpdateTopicPermissions",
      "UpdateTopicRefreshSchedule UpdateUser UpdateUserCustomPermission UpdateVPCConnection"]),
    ("ram", [
      "AcceptResourceShareInvitation AssociateResourceShare AssociateResourceSharePermission",
      "CreatePermission CreatePermissionVersion CreateResourceShare DeletePermission",
      "DeletePermissionVersion DeleteResourceShare DisassociateResourceShare",
      "DisassociateResourceSharePermission EnableSharingWithAwsOrganization GetPermission",
      "GetResourcePolicies GetResourceShareAssociations GetResourceShareInvitations",
      "GetResourceShares ListPendingInvitationResources ListPermissionAssociations",
      "ListPermissionVersions ListPermissions ListPrincipals",
      "ListReplacePermissionAssociationsWork ListResourceSharePermissions ListResourceTypes",
      "ListResources ListSourceAssociations PromotePermissionCreatedFromPolicy",
      "PromoteResourceShareCreatedFromPolicy RejectResourceShareInvitation",
      "ReplacePermissionAssociations SetDefaultPermissionVersion TagResource UntagResource",
      "UpdateResourceShare"]),
    ("rbin", [
      "CreateRule DeleteRule GetRule ListRules ListTagsForResource LockRule TagResource",
      "UnlockRule UntagResource UpdateRule"]),
    ("rds", [
      "AddRoleToDBCluster AddRoleToDBInstance AddSourceIdentifierToSubscription",
      "AddTagsToResource ApplyPendingMaintenanceAction AuthorizeDBSecurityGroupIngress",
      "BacktrackDBCluster CancelExportTask CopyDBClusterParameterGroup CopyDBClusterSnapshot",
      "CopyDBParameterGroup CopyDBSnapshot CopyOptionGroup CreateBlueGreenDeployment",
      "CreateCustomDBEngineVersion CreateDBCluster CreateDBClusterEndpoint",
      "CreateDBClusterParameterGroup CreateDBClusterSnapshot CreateDBInstance",
      "CreateDBInstanceReadReplica CreateDBParameterGroup CreateDBProxy CreateDBProxyEndpoint",
      "CreateDBSecurityGroup CreateDBShardGroup CreateDBSnapshot CreateDBSubnetGroup",
      "CreateEventSubscription CreateGlobalCluster CreateIntegration CreateOptionGroup",
      "CreateTenantDatabase DeleteBlueGreenDeployment DeleteCustomDBEngineVersion",
      "DeleteDBCluster DeleteDBClusterAutomatedBackup DeleteDBClusterEndpoint",
      "DeleteDBClusterParameterGroup DeleteDBClusterSnapshot DeleteDBInstance",
      "DeleteDBInstanceAutomatedBackup DeleteDBParameterGroup DeleteDBProxy",
      "DeleteDBProxyEndpoint DeleteDBSecurityGroup DeleteDBShardGroup DeleteDBSnapshot",
      "DeleteDBSubnetGroup DeleteEventSubscription DeleteGlobalCluster DeleteIntegration",
      "DeleteOptionGroup DeleteTenantDatabase DeregisterDBProxyTargets",
      "DescribeAccountAttributes DescribeBlueGreenDeployments DescribeCertificates",
      "DescribeDBClusterAutomatedBackups DescribeDBClusterBacktracks DescribeDBClusterEndpoints",
      "DescribeDBClusterParameterGroups DescribeDBClusterParameters",
      "DescribeDBClusterSnapshotAttributes DescribeDBClusterSnapshots DescribeDBClusters",
      "DescribeDBEngineVersions DescribeDBInstanceAutomatedBackups DescribeDBInstances",
      "DescribeDBLogFiles DescribeDBMajorEngineVersions DescribeDBParameterGroups",
      "DescribeDBParameters DescribeDBProxies DescribeDBProxyEndpoints",
      "DescribeDBProxyTargetGroups DescribeDBProxyTargets DescribeDBRecommendations",
      "DescribeDBSecurityGroups DescribeDBShardGroups DescribeDBSnapshotAttributes",
      "DescribeDBSnapshotTenantDatabases DescribeDBSnapshots DescribeDBSubnetGroups",
      "DescribeEngineDefaultClusterParameters DescribeEngineDefaultParameters",
      "DescribeEventCategories DescribeEventSubscriptions DescribeEvents DescribeExportTasks",
      "DescribeGlobalClusters DescribeIntegrations DescribeOptionGroupOptions",
      "DescribeOptionGroups DescribeOrderableDBInstanceOptions",
      "DescribePendingMaintenanceActions DescribeReservedDBInstances",
      "DescribeReservedDBInstancesOfferings DescribeServerlessV2PlatformVersions",
      "DescribeSourceRegions DescribeTenantDatabases DescribeValidDBInstanceModifications",
      "DisableHttpEndpoint DownloadDBLogFilePortion EnableHttpEndpoint FailoverDBCluster",
      "FailoverGlobalCluster ListTagsForResource ModifyActivityStream ModifyCertificates",
      "ModifyCurrentDBClusterCapacity ModifyCustomDBEngineVersion ModifyDBCluster",
      "ModifyDBClusterEndpoint ModifyDBClusterParameterGroup ModifyDBClusterSnapshotAttribute",
      "ModifyDBInstance ModifyDBParameterGroup ModifyDBProxy ModifyDBProxyEndpoint",
      "ModifyDBProxyTargetGroup ModifyDBRecommendation ModifyDBShardGroup ModifyDBSnapshot",
      "ModifyDBSnapshotAttribute ModifyDBSubnetGroup ModifyEventSubscription",
      "ModifyGlobalCluster ModifyIntegration ModifyOptionGroup ModifyTenantDatabase",
      "PromoteReadReplica PromoteReadReplicaDBCluster PurchaseReservedDBInstancesOffering",
      "RebootDBCluster RebootDBInstance RebootDBShardGroup RegisterDBProxyTargets",
      "RemoveFromGlobalCluster RemoveRoleFromDBCluster RemoveRoleFromDBInstance",
      "RemoveSourceIdentifierFromSubscription RemoveTagsFromResource",
      "ResetDBClusterParameterGroup ResetDBParameterGroup RestoreDBClusterFromS3",
      "RestoreDBClusterFromSnapshot RestoreDBClusterToPointInTime",
      "RestoreDBInstanceFromDBSnapshot RestoreDBInstanceFromS3 RestoreDBInstanceToPointInTime",
      "RevokeDBSecurityGroupIngress StartActivityStream StartDBCluster StartDBInstance",
      "StartDBInstanceAutomatedBackupsReplication StartExportTask StopActivityStream",
      "StopDBCluster StopDBInstance StopDBInstanceAutomatedBackupsReplication",
      "SwitchoverBlueGreenDeployment SwitchoverGlobalCluster SwitchoverReadReplica"]),
    ("rds-data", [
      "BatchExecuteStatement BeginTransaction CommitTransaction ExecuteSql ExecuteStatement",
      "RollbackTransaction"]),
    ("redshift", [
      "AcceptReservedNodeExchange AddPartner AssociateDataShareConsumer",
      "AuthorizeClusterSecurityGroupIngress AuthorizeDataShare AuthorizeEndpointAccess",
      "AuthorizeSnapshotAccess BatchDeleteClusterSnapshots BatchModifyClusterSnapshots",
      "CancelResize CopyClusterSnapshot CreateAuthenticationProfile CreateCluster",
      "CreateClusterParameterGroup CreateClusterSecurityGroup CreateClusterSnapshot",
      "CreateClusterSubnetGroup CreateCustomDomainAssociation CreateEndpointAccess",
      "CreateEventSubscription CreateHsmClientCertificate CreateHsmConfiguration",
      "CreateIntegration CreateRedshiftIdcApplication CreateScheduledAction",
      "CreateSnapshotCopyGrant CreateSnapshotSchedule CreateTags CreateUsageLimit",
      "DeauthorizeDataShare DeleteAuthenticationProfile DeleteCluster",
      "DeleteClusterParameterGroup DeleteClusterSecurityGroup DeleteClusterSnapshot",
      "DeleteClusterSubnetGroup DeleteCustomDomainAssociation DeleteEndpointAccess",
      "DeleteEventSubscription DeleteHsmClientCertificate DeleteHsmConfiguration",
      "DeleteIntegration DeletePartner DeleteRedshiftIdcApplication DeleteResourcePolicy",
      "DeleteScheduledAction DeleteSnapshotCopyGrant DeleteSnapshotSchedule DeleteTags",
      "DeleteUsageLimit DeregisterNamespace DescribeAccountAttributes",
      "DescribeAuthenticationProfiles DescribeClusterDbRevisions DescribeClusterParameterGroups",
      "DescribeClusterParameters DescribeClusterSecurityGroups DescribeClusterSnapshots",
      "DescribeClusterSubnetGroups DescribeClusterTracks DescribeClusterVersions",
      "DescribeClusters DescribeCustomDomainAssociations DescribeDataShares",
      "DescribeDataSharesForConsumer DescribeDataSharesForProducer",
      "DescribeDefaultClusterParameters DescribeEndpointAccess DescribeEndpointAuthorization",
      "DescribeEventCategories DescribeEventSubscriptions DescribeEvents",
      "DescribeHsmClientCertificates DescribeHsmConfigurations DescribeInboundIntegrations",
      "DescribeIntegrations DescribeLoggingStatus DescribeNodeConfigurationOptions",
      "DescribeOrderableClusterOptions DescribePartners DescribeRedshiftIdcApplications",
      "DescribeReservedNodeExchangeStatus DescribeReservedNodeOfferings DescribeReservedNodes",
      "DescribeResize DescribeScheduledActions DescribeSnapshotCopyGrants",
      "DescribeSnapshotSchedules DescribeStorage DescribeTableRestoreStatus DescribeTags",
      "DescribeUsageLimits DisableLogging DisableSnapshotCopy DisassociateDataShareConsumer",
      "EnableLogging EnableSnapshotCopy FailoverPrimaryCompute GetClusterCredentials",
      "GetClusterCredentialsWithIAM GetIdentityCenterAuthToken",
      "GetReservedNodeExchangeConfigurationOptions GetReservedNodeExchangeOfferings",
      "GetResourcePolicy ListRecommendations ModifyAquaConfiguration",
      "ModifyAuthenticationProfile ModifyCluster ModifyClusterDbRevision ModifyClusterIamRoles",
      "ModifyClusterMaintenance ModifyClusterParameterGroup ModifyClusterSnapshot",
      "ModifyClusterSnapshotSchedule ModifyClusterSubnetGroup ModifyCustomDomainAssociation",
      "ModifyEndpointAccess ModifyEventSubscription ModifyIntegration",
      "ModifyLakehouseConfiguration ModifyRedshiftIdcApplication ModifyScheduledAction",
      "ModifySnapshotCopyRetentionPeriod ModifySnapshotSchedule ModifyUsageLimit PauseCluster",
      "PurchaseReservedNodeOffering PutResourcePolicy RebootCluster RegisterNamespace",
      "RejectDataShare ResetClusterParameterGroup ResizeCluster RestoreFromClusterSnapshot",
      "RestoreTableFromClusterSnapshot ResumeCluster RevokeClusterSecurityGroupIngress",
      "RevokeEndpointAccess RevokeSnapshotAccess RotateEncryptionKey UpdatePartnerStatus"]),
    ("redshift-data", [
      "BatchExecuteStatement CancelStatement DescribeStatement DescribeTable ExecuteStatement",
      "GetStatementResult GetStatementResultV2 ListDatabases ListSchemas ListStatements",
      "ListTables"]),
    ("redshift-serverless", [
      "ConvertRecoveryPointToSnapshot CreateCustomDomainAssociation CreateEndpointAccess",
      "CreateNamespace CreateReservation CreateScheduledAction CreateSnapshot",
      "CreateSnapshotCopyConfiguration CreateUsageLimit CreateWorkgroup",
      "DeleteCustomDomainAssociation DeleteEndpointAccess DeleteNamespace DeleteResourcePolicy",
      "DeleteScheduledAction DeleteSnapshot DeleteSnapshotCopyConfiguration DeleteUsageLimit",
      "DeleteWorkgroup GetCredentials GetCustomDomainAssociation GetEndpointAccess",
      "GetIdentityCenterAuthToken GetNamespace GetRecoveryPoint GetReservation",
      "GetReservationOffering GetResourcePolicy GetScheduledAction GetSnapshot",
      "GetTableRestoreStatus GetTrack GetUsageLimit GetWorkgroup ListCustomDomainAssociations",
      "ListEndpointAccess ListManagedWorkgroups ListNamespaces ListRecoveryPoints",
      "ListReservationOfferings ListReservations ListScheduledActions",
      "ListSnapshotCopyConfigurations ListSnapshots ListTableRestoreStatus ListTagsForResource",
      "ListTracks ListUsageLimits ListWorkgroups PutResourcePolicy RestoreFromRecoveryPoint",
      "RestoreFromSnapshot RestoreTableFromRecoveryPoint RestoreTableFromSnapshot TagResource",
      "UntagResource UpdateCustomDomainAssociation UpdateEndpointAccess",
      "UpdateLakehouseConfiguration UpdateNamespace UpdateScheduledAction UpdateSnapshot",
      "UpdateSnapshotCopyConfiguration UpdateUsageLimit UpdateWorkgroup"]),
    ("refactor-spaces", [
      "CreateApplication CreateEnvironment CreateRoute CreateService DeleteApplication",
      "DeleteEnvironment DeleteResourcePolicy DeleteRoute DeleteService GetApplication",
      "GetEnvironment GetResourcePolicy GetRoute GetService ListApplications",
      "ListEnvironmentVpcs ListEnvironments ListRoutes ListServices ListTagsForResource",
      "PutResourcePolicy TagResource UntagResource UpdateRoute"]),
    ("rekognition", [
      "AssociateFaces CompareFaces CopyProjectVersion CreateCollection CreateDataset",
      "CreateFaceLivenessSession CreateProject CreateProjectVersion CreateStreamProcessor",
      "CreateUser DeleteCollection DeleteDataset DeleteFaces DeleteProject DeleteProjectPolicy",
      "DeleteProjectVersion DeleteStreamProcessor DeleteUser DescribeCollection DescribeDataset",
      "DescribeProjectVersions DescribeProjects DescribeStreamProcessor DetectCustomLabels",
      "DetectFaces DetectLabels DetectModerationLabels DetectProtectiveEquipment DetectText",
      "DisassociateFaces DistributeDatasetEntries GetCelebrityInfo GetCelebrityRecognition",
      "GetContentModeration GetFaceDetection GetFaceLivenessSessionResults GetFaceSearch",
      "GetLabelDetection GetMediaAnalysisJob GetPersonTracking GetSegmentDetection",
      "GetTextDetection IndexFaces ListCollections ListDatasetEntries ListDatasetLabels",
      "ListFaces ListMediaAnalysisJobs ListProjectPolicies ListStreamProcessors",
      "ListTagsForResource ListUsers PutProjectPolicy RecognizeCelebrities SearchFaces",
      "SearchFacesByImage SearchUsers SearchUsersByImage StartCelebrityRecognition",
      "StartContentModeration StartFaceDetection StartFaceSearch StartLabelDetection",
      "StartMediaAnalysisJob StartPersonTracking StartProjectVersion StartSegmentDetection",
      "StartStreamProcessor StartTextDetection StopProjectVersion StopStreamProcessor",
      "TagResource UntagResource UpdateDatasetEntries UpdateStreamProcessor"]),
    ("repostspace", [
      "BatchAddChannelRoleToAccessors BatchAddRole BatchRemoveChannelRoleFromAccessors",
      "BatchRemoveRole CreateChannel CreateSpace DeleteSpace DeregisterAdmin GetChannel",
      "GetSpace ListChannels ListSpaces ListTagsForResource RegisterAdmin SendInvites",
      "TagResource UntagResource UpdateChannel UpdateSpace"]),
    ("resiliencehub", [
      "AcceptResourceGroupingRecommendations AddDraftAppVersionResourceMappings",
      "BatchUpdateRecommendationStatus CreateApp CreateAppVersionAppComponent",
      "CreateAppVersionResource CreateRecommendationTemplate CreateResiliencyPolicy DeleteApp",
      "DeleteAppAssessment DeleteAppInputSource DeleteAppVersionAppComponent",
      "DeleteAppVersionResource DeleteRecommendationTemplate DeleteResiliencyPolicy DescribeApp",
      "DescribeAppAssessment DescribeAppVersion DescribeAppVersionAppComponent",
      "DescribeAppVersionResource DescribeAppVersionResourcesResolutionStatus",
      "DescribeAppVersionTemplate DescribeDraftAppVersionResourcesImportStatus",
      "DescribeMetricsExport DescribeResiliencyPolicy",
      "DescribeResourceGroupingRecommendationTask ImportResourcesToDraftAppVersion",
      "ListAlarmRecommendations ListAppAssessmentComplianceDrifts",
      "ListAppAssessmentResourceDrifts ListAppAssessments ListAppComponentCompliances",
      "ListAppComponentRecommendations ListAppInputSources ListAppVersionAppComponents",
      "ListAppVersionResourceMappings ListAppVersionResources ListAppVersions ListApps",
      "ListMetrics ListRecommendationTemplates ListResiliencyPolicies",
      "ListResourceGroupingRecommendations ListSopRecommendations",
      "ListSuggestedResiliencyPolicies ListTagsForResource ListTestRecommendations",
      "ListUnsupportedAppVersionResources PublishAppVersion PutDraftAppVersionTemplate",
      "RejectResourceGroupingRecommendations RemoveDraftAppVersionResourceMappings",
      "ResolveAppVersionResources StartAppAssessment StartMetricsExport",
      "StartResourceGroupingRecommendationTask TagResource UntagResource UpdateApp",
      "UpdateAppVersion UpdateAppVersionAppComponent UpdateAppVersionResource",
      "UpdateResiliencyPolicy"]),
    ("resource-explorer-2", [
      "AssociateDefaultView BatchGetView CreateIndex CreateResourceExplorerSetup CreateView",
      "DeleteIndex DeleteResourceExplorerSetup DeleteView DisassociateDefaultView",
      "GetAccountLevelServiceConfiguration GetDefaultView GetIndex GetManagedView",
      "GetResourceExplorerSetup GetServiceIndex GetServiceView GetView ListIndexes",
      "ListIndexesForMembers ListManagedViews ListResources ListServiceIndexes ListServiceViews",
      "ListStreamingAccessForServices ListSupportedResourceTypes ListTagsForResource ListViews",
      "Search TagResource UntagResource UpdateIndexType UpdateView"]),
    ("resource-groups", [
      "CancelTagSyncTask CreateGroup DeleteGroup GetAccountSettings GetGroup",
      "GetGroupConfiguration GetGroupQuery GetTagSyncTask GetTags GroupResources",
      "ListGroupResources ListGroupingStatuses ListGroups ListTagSyncTasks",
      "PutGroupConfiguration SearchResources StartTagSyncTask Tag UngroupResources Untag",
      "UpdateAccountSettings UpdateGroup UpdateGroupQuery"]),
    ("rolesanywhere", [
      "CreateProfile CreateTrustAnchor DeleteAttributeMapping DeleteCrl DeleteProfile",
      "DeleteTrustAnchor DisableCrl DisableProfile DisableTrustAnchor EnableCrl EnableProfile",
      "EnableTrustAnchor GetCrl GetProfile GetSubject GetTrustAnchor ImportCrl ListCrls",
      "ListProfiles ListSubjects ListTagsForResource ListTrustAnchors PutAttributeMapping",
      "PutNotificationSettings ResetNotificationSettings TagResource UntagResource UpdateCrl",
      "UpdateProfile UpdateTrustAnchor"]),
    ("route53", [
      "ActivateKeySigningKey AssociateVPCWithHostedZone ChangeCidrCollection",
      "ChangeResourceRecordSets ChangeTagsForResource CreateCidrCollection CreateHealthCheck",
      "CreateHostedZone CreateKeySigningKey CreateQueryLoggingConfig",
      "CreateReusableDelegationSet CreateTrafficPolicy CreateTrafficPolicyInstance",
      "CreateTrafficPolicyVersion CreateVPCAssociationAuthorization DeactivateKeySigningKey",
      "DeleteCidrCollection DeleteHealthCheck DeleteHostedZone DeleteKeySigningKey",
      "DeleteQueryLoggingConfig DeleteReusableDelegationSet DeleteTrafficPolicy",
      "DeleteTrafficPolicyInstance DeleteVPCAssociationAuthorization DisableHostedZoneDNSSEC",
      "DisassociateVPCFromHostedZone EnableHostedZoneDNSSEC GetAccountLimit GetChange",
      "GetCheckerIpRanges GetDNSSEC GetGeoLocation GetHealthCheck GetHealthCheckCount",
      "GetHealthCheckLastFailureReason GetHealthCheckStatus GetHostedZone GetHostedZoneCount",
      "GetHostedZoneLimit GetQueryLoggingConfig GetReusableDelegationSet",
      "GetReusableDelegationSetLimit GetTrafficPolicy GetTrafficPolicyInstance",
      "GetTrafficPolicyInstanceCount ListCidrBlocks ListCidrCollections ListCidrLocations",
      "ListGeoLocations ListHealthChecks ListHostedZones ListHostedZonesByName",
      "ListHostedZonesByVPC ListQueryLoggingConfigs ListResourceRecordSets",
      "ListReusableDelegationSets ListTagsForResource ListTagsForResources ListTrafficPolicies",
      "ListTrafficPolicyInstances ListTrafficPolicyInstancesByHostedZone",
      "ListTrafficPolicyInstancesByPolicy ListTrafficPolicyVersions",
      "ListVPCAssociationAuthorizations TestDNSAnswer UpdateHealthCheck UpdateHostedZoneComment",
      "UpdateHostedZoneFeatures UpdateTrafficPolicyComment UpdateTrafficPolicyInstance"]),
    ("route53-recovery-cluster", [
      "GetRoutingControlState ListRoutingControls UpdateRoutingControlState",
      "UpdateRoutingControlStates"]),
    ("route53-recovery-control-config", [
      "CreateCluster CreateControlPanel CreateRoutingControl CreateSafetyRule DeleteCluster",
      "DeleteControlPanel DeleteRoutingControl DeleteSafetyRule DescribeCluster",
      "DescribeControlPanel DescribeRoutingControl DescribeSafetyRule GetResourcePolicy",
      "ListAssociatedRoute53HealthChecks ListClusters ListControlPanels ListRoutingControls",
      "ListSafetyRules ListTagsForResource TagResource UntagResource UpdateCluster",
      "UpdateControlPanel UpdateRoutingControl UpdateSafetyRule"]),
    ("route53-recovery-readiness", [
      "CreateCell CreateCrossAccountAuthorization CreateReadinessCheck CreateRecoveryGroup",
      "CreateResourceSet DeleteCell DeleteCrossAccountAuthorization DeleteReadinessCheck",
      "DeleteRecoveryGroup DeleteResourceSet GetArchitectureRecommendations GetCell",
      "GetCellReadinessSummary GetReadinessCheck GetReadinessCheckResourceStatus",
      "GetReadinessCheckStatus GetRecoveryGroup GetRecoveryGroupReadinessSummary GetResourceSet",
      "ListCells ListCrossAccountAuthorizations ListReadinessChecks ListRecoveryGroups",
      "ListResourceSets ListRules ListTagsForResources TagResource UntagResource UpdateCell",
      "UpdateReadinessCheck UpdateRecoveryGroup UpdateResourceSet"]),
    ("route53domains", [
      "AcceptDomainTransferFromAnotherAwsAccount AssociateDelegationSignerToDomain",
      "CancelDomainTransferToAnotherAwsAccount CheckDomainAvailability",
      "CheckDomainTransferability DeleteDomain DeleteTagsForDomain DisableDomainAutoRenew",
      "DisableDomainTransferLock DisassociateDelegationSignerFromDomain EnableDomainAutoRenew",
      "EnableDomainTransferLock GetContactReachabilityStatus GetDomainDetail",
      "GetDomainSuggestions GetOperationDetail ListDomains ListOperations ListPrices",
      "ListTagsForDomain PushDomain RegisterDomain RejectDomainTransferFromAnotherAwsAccount",
      "RenewDomain ResendContactReachabilityEmail ResendOperationAuthorization",
      "RetrieveDomainAuthCode TransferDomain TransferDomainToAnotherAwsAccount",
      "UpdateDomainContact UpdateDomainContactPrivacy UpdateDomainNameservers",
      "UpdateTagsForDomain ViewBilling"]),
    ("route53globalresolver", [
      "AssociateHostedZone BatchCreateFirewallRule BatchDeleteFirewallRule",
      "BatchUpdateFirewallRule CreateAccessSource CreateAccessToken CreateDNSView",
      "CreateFirewallDomainList CreateFirewallRule CreateGlobalResolver DeleteAccessSource",
      "DeleteAccessToken DeleteDNSView DeleteFirewallDomainList DeleteFirewallRule",
      "DeleteGlobalResolver DisableDNSView DisassociateHostedZone EnableDNSView GetAccessSource",
      "GetAccessToken GetDNSView GetFirewallDomainList GetFirewallRule GetGlobalResolver",
      "GetHostedZoneAssociation GetManagedFirewallDomainList ImportFirewallDomains",
      "ListAccessSources ListAccessTokens ListDNSViews ListFirewallDomainLists",
      "ListFirewallDomains ListFirewallRules ListGlobalResolvers ListHostedZoneAssociations",
      "ListManagedFirewallDomainLists ListTagsForResource TagResource UntagResource",
      "UpdateAccessSource UpdateAccessToken UpdateDNSView UpdateFirewallDomains",
      "UpdateFirewallRule UpdateGlobalResolver UpdateHostedZoneAssociation"]),
    ("route53profiles", [
      "AssociateProfile AssociateResourceToProfile CreateProfile DeleteProfile",
      "DisassociateProfile DisassociateResourceFromProfile GetProfile GetProfileAssociation",
      "GetProfileResourceAssociation ListProfileAssociations ListProfileResourceAssociations",
      "ListProfiles ListTagsForResource TagResource UntagResource",
      "UpdateProfileResourceAssociation"]),
    ("route53resolver", [
      "AssociateFirewallRuleGroup AssociateResolverEndpointIpAddress",
      "AssociateResolverQueryLogConfig AssociateResolverRule CreateFirewallDomainList",
      "CreateFirewallRule CreateFirewallRuleGroup CreateOutpostResolver CreateResolverEndpoint",
      "CreateResolverQueryLogConfig CreateResolverRule DeleteFirewallDomainList",
      "DeleteFirewallRule DeleteFirewallRuleGroup DeleteOutpostResolver DeleteResolverEndpoint",
      "DeleteResolverQueryLogConfig DeleteResolverRule DisassociateFirewallRuleGroup",
      "DisassociateResolverEndpointIpAddress DisassociateResolverQueryLogConfig",
      "DisassociateResolverRule GetFirewallConfig GetFirewallDomainList GetFirewallRuleGroup",
      "GetFirewallRuleGroupAssociation GetFirewallRuleGroupPolicy GetOutpostResolver",
      "GetResolverConfig GetResolverDnssecConfig GetResolverEndpoint GetResolverQueryLogConfig",
      "GetResolverQueryLogConfigAssociation GetResolverQueryLogConfigPolicy GetResolverRule",
      "GetResolverRuleAssociation GetResolverRulePolicy ImportFirewallDomains",
      "ListFirewallConfigs ListFirewallDomainLists ListFirewallDomains",
      "ListFirewallRuleGroupAssociations ListFirewallRuleGroups ListFirewallRules",
      "ListOutpostResolvers ListResolverConfigs ListResolverDnssecConfigs",
      "ListResolverEndpointIpAddresses ListResolverEndpoints",
      "ListResolverQueryLogConfigAssociations ListResolverQueryLogConfigs",
      "ListResolverRuleAssociations ListResolverRules ListTagsForResource",
      "PutFirewallRuleGroupPolicy PutResolverQueryLogConfigPolicy PutResolverRulePolicy",
      "TagResource UntagResource UpdateFirewallConfig UpdateFirewallDomains UpdateFirewallRule",
      "UpdateFirewallRuleGroupAssociation UpdateOutpostResolver UpdateResolverConfig",
      "UpdateResolverDnssecConfig UpdateResolverEndpoint UpdateResolverRule"]),
    ("rtbfabric", [
      "AcceptLink AssociateCertificate CreateInboundExternalLink CreateLink",
      "CreateLinkRoutingRule CreateOutboundExternalLink CreateRequesterGateway",
      "CreateResponderGateway DeleteInboundExternalLink DeleteLink DeleteLinkRoutingRule",
      "DeleteOutboundExternalLink DeleteRequesterGateway DeleteResponderGateway",
      "DisassociateCertificate GetCertificateAssociation GetInboundExternalLink GetLink",
      "GetLinkRoutingRule GetOutboundExternalLink GetRequesterGateway GetResponderGateway",
      "ListCertificateAssociations ListLinkRoutingRules ListLinks ListRequesterGateways",
      "ListResponderGateways ListTagsForResource RejectLink TagResource UntagResource",
      "UpdateLink UpdateLinkModuleFlow UpdateLinkRoutingRule UpdateRequesterGateway",
      "UpdateResponderGateway"]),
    ("rum", [
      "BatchCreateRumMetricDefinitions BatchDeleteRumMetricDefinitions",
      "BatchGetRumMetricDefinitions CreateAppMonitor DeleteAppMonitor DeleteResourcePolicy",
      "DeleteRumMetricsDestination GetAppMonitor GetAppMonitorData GetResourcePolicy",
      "ListAppMonitors ListRumMetricsDestinations ListTagsForResource PutResourcePolicy",
      "PutRumEvents PutRumMetricsDestination TagResource UntagResource UpdateAppMonitor",
      "UpdateRumMetricDefinition"])]

end StackAudit.Catalog
