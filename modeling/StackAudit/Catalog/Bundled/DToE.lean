/-!
# Actions of services: D to E

The privileges of the services whose names begin with `d` to `e`.
-/

namespace StackAudit.Catalog

/-- The services from `d` on, each with lines of privileges between blanks. -/
def servicesDToE : List (String × List String) :=
  [("databrew", [
      "BatchDeleteRecipeVersion CreateDataset CreateProfileJob CreateProject CreateRecipe",
      "CreateRecipeJob CreateRuleset CreateSchedule DeleteDataset DeleteJob DeleteProject",
      "DeleteRecipeVersion DeleteRuleset DeleteSchedule DescribeDataset DescribeJob",
      "DescribeJobRun DescribeProject DescribeRecipe DescribeRuleset DescribeSchedule",
      "ListDatasets ListJobRuns ListJobs ListProjects ListRecipeVersions ListRecipes",
      "ListRulesets ListSchedules ListTagsForResource PublishRecipe SendProjectSessionAction",
      "StartJobRun StartProjectSession StopJobRun TagResource UntagResource UpdateDataset",
      "UpdateProfileJob UpdateProject UpdateRecipe UpdateRecipeJob UpdateRuleset UpdateSchedule"]),
    ("dataexchange", [
      "AcceptDataGrant CancelJob CreateDataGrant CreateDataSet CreateEventAction CreateJob",
      "CreateRevision DeleteAsset DeleteDataGrant DeleteDataSet DeleteEventAction",
      "DeleteRevision GetAsset GetDataGrant GetDataSet GetEventAction GetJob",
      "GetReceivedDataGrant GetRevision ListDataGrants ListDataSetRevisions ListDataSets",
      "ListEventActions ListJobs ListReceivedDataGrants ListRevisionAssets ListTagsForResource",
      "RevokeRevision SendApiAsset SendDataSetNotification StartJob TagResource UntagResource",
      "UpdateAsset UpdateDataSet UpdateEventAction UpdateRevision"]),
    ("datapipeline", [
      "ActivatePipeline AddTags CreatePipeline DeactivatePipeline DeletePipeline",
      "DescribeObjects DescribePipelines EvaluateExpression GetPipelineDefinition ListPipelines",
      "PollForTask PutPipelineDefinition QueryObjects RemoveTags ReportTaskProgress",
      "ReportTaskRunnerHeartbeat SetStatus SetTaskStatus ValidatePipelineDefinition"]),
    ("datasync", [
      "CancelTaskExecution CreateAgent CreateLocationAzureBlob CreateLocationEfs",
      "CreateLocationFsxLustre CreateLocationFsxOntap CreateLocationFsxOpenZfs",
      "CreateLocationFsxWindows CreateLocationHdfs CreateLocationNfs",
      "CreateLocationObjectStorage CreateLocationS3 CreateLocationSmb CreateTask DeleteAgent",
      "DeleteLocation DeleteTask DescribeAgent DescribeLocationAzureBlob DescribeLocationEfs",
      "DescribeLocationFsxLustre DescribeLocationFsxOntap DescribeLocationFsxOpenZfs",
      "DescribeLocationFsxWindows DescribeLocationHdfs DescribeLocationNfs",
      "DescribeLocationObjectStorage DescribeLocationS3 DescribeLocationSmb DescribeTask",
      "DescribeTaskExecution ListAgents ListLocations ListTagsForResource ListTaskExecutions",
      "ListTasks StartTaskExecution TagResource UntagResource UpdateAgent",
      "UpdateLocationAzureBlob UpdateLocationEfs UpdateLocationFsxLustre UpdateLocationFsxOntap",
      "UpdateLocationFsxOpenZfs UpdateLocationFsxWindows UpdateLocationHdfs UpdateLocationNfs",
      "UpdateLocationObjectStorage UpdateLocationS3 UpdateLocationSmb UpdateTask",
      "UpdateTaskExecution"]),
    ("datazone", [
      "AcceptPredictions AcceptSubscriptionRequest AddEntityOwner AddPolicyGrant",
      "AssociateEnvironmentRole AssociateGovernedTerms BatchGetAttributesMetadata",
      "BatchPutAttributesMetadata CancelMetadataGenerationRun CancelSubscription",
      "CreateAccountPool CreateAsset CreateAssetFilter CreateAssetRevision CreateAssetType",
      "CreateConnection CreateDataProduct CreateDataProductRevision CreateDataSource",
      "CreateDomain CreateDomainUnit CreateEnvironment CreateEnvironmentAction",
      "CreateEnvironmentBlueprint CreateEnvironmentProfile CreateFormType CreateGlossary",
      "CreateGlossaryTerm CreateGroupProfile CreateListingChangeSet CreateNotebook",
      "CreateProject CreateProjectMembership CreateProjectProfile CreateRule",
      "CreateSubscriptionGrant CreateSubscriptionRequest CreateSubscriptionTarget",
      "CreateUserProfile DeleteAccountPool DeleteAsset DeleteAssetFilter DeleteAssetType",
      "DeleteConnection DeleteDataExportConfiguration DeleteDataProduct DeleteDataSource",
      "DeleteDomain DeleteDomainUnit DeleteEnvironment DeleteEnvironmentAction",
      "DeleteEnvironmentBlueprint DeleteEnvironmentBlueprintConfiguration",
      "DeleteEnvironmentProfile DeleteFormType DeleteGlossary DeleteGlossaryTerm DeleteListing",
      "DeleteNotebook DeleteProject DeleteProjectMembership DeleteProjectProfile DeleteRule",
      "DeleteSubscriptionGrant DeleteSubscriptionRequest DeleteSubscriptionTarget",
      "DeleteTimeSeriesDataPoints DisassociateEnvironmentRole DisassociateGovernedTerms",
      "GetAccountPool GetAsset GetAssetFilter GetAssetType GetConnection",
      "GetDataExportConfiguration GetDataProduct GetDataSource GetDataSourceRun GetDomain",
      "GetDomainUnit GetEnvironment GetEnvironmentAction GetEnvironmentBlueprint",
      "GetEnvironmentBlueprintConfiguration GetEnvironmentCredentials GetEnvironmentProfile",
      "GetFormType GetGlossary GetGlossaryTerm GetGroupProfile GetIamPortalLoginUrl GetJobRun",
      "GetLineageEvent GetLineageNode GetListing GetMetadataGenerationRun GetNotebook",
      "GetNotebookExport GetNotebookRun GetProject GetProjectProfile GetRule GetSubscription",
      "GetSubscriptionGrant GetSubscriptionRequestDetails GetSubscriptionTarget",
      "GetTimeSeriesDataPoint GetUserProfile ListAccountPools ListAccountsInAccountPool",
      "ListAssetFilters ListAssetRevisions ListConnections ListDataProductRevisions",
      "ListDataSourceRunActivities ListDataSourceRuns ListDataSources ListDomainUnitsForParent",
      "ListDomains ListEntityOwners ListEnvironmentActions",
      "ListEnvironmentBlueprintConfigurations ListEnvironmentBlueprints ListEnvironmentProfiles",
      "ListEnvironments ListJobRuns ListLineageEvents ListLineageNodeHistory",
      "ListMetadataGenerationRuns ListNotebookRuns ListNotebooks ListNotifications",
      "ListPolicyGrants ListProjectMemberships ListProjectProfiles ListProjects ListRules",
      "ListSubscriptionGrants ListSubscriptionRequests ListSubscriptionTargets",
      "ListSubscriptions ListTagsForResource ListTimeSeriesDataPoints PostLineageEvent",
      "PostTimeSeriesDataPoints PutDataExportConfiguration PutEnvironmentBlueprintConfiguration",
      "QueryGraph RejectPredictions RejectSubscriptionRequest RemoveEntityOwner",
      "RemovePolicyGrant RevokeSubscription Search SearchGroupProfiles SearchListings",
      "SearchTypes SearchUserProfiles StartDataSourceRun StartMetadataGenerationRun",
      "StartNotebookExport StartNotebookImport StartNotebookRun StopNotebookRun TagResource",
      "UntagResource UpdateAccountPool UpdateAssetFilter UpdateConnection UpdateDataSource",
      "UpdateDomain UpdateDomainUnit UpdateEnvironment UpdateEnvironmentAction",
      "UpdateEnvironmentBlueprint UpdateEnvironmentProfile UpdateGlossary UpdateGlossaryTerm",
      "UpdateGroupProfile UpdateNotebook UpdateProject UpdateProjectProfile",
      "UpdateRootDomainUnitOwner UpdateRule UpdateSubscriptionGrantStatus",
      "UpdateSubscriptionRequest UpdateSubscriptionTarget UpdateUserProfile"]),
    ("dax", [
      "CreateCluster CreateParameterGroup CreateSubnetGroup DecreaseReplicationFactor",
      "DeleteCluster DeleteParameterGroup DeleteSubnetGroup DescribeClusters",
      "DescribeDefaultParameters DescribeEvents DescribeParameterGroups DescribeParameters",
      "DescribeSubnetGroups IncreaseReplicationFactor ListTags RebootNode TagResource",
      "UntagResource UpdateCluster UpdateParameterGroup UpdateSubnetGroup"]),
    ("deadline", [
      "AssociateMemberToFarm AssociateMemberToFleet AssociateMemberToJob AssociateMemberToQueue",
      "AssumeFleetRoleForRead AssumeFleetRoleForWorker AssumeQueueRoleForRead",
      "AssumeQueueRoleForUser AssumeQueueRoleForWorker BatchGetJob BatchGetJobEntity",
      "BatchGetSession BatchGetSessionAction BatchGetStep BatchGetTask BatchGetWorker",
      "BatchUpdateJob BatchUpdateTask CopyJobTemplate CreateBudget CreateFarm CreateFleet",
      "CreateJob CreateLicenseEndpoint CreateLimit CreateMonitor CreateQueue",
      "CreateQueueEnvironment CreateQueueFleetAssociation CreateQueueLimitAssociation",
      "CreateStorageProfile CreateWorker DeleteBudget DeleteFarm DeleteFleet",
      "DeleteLicenseEndpoint DeleteLimit DeleteMeteredProduct DeleteMonitor DeleteQueue",
      "DeleteQueueEnvironment DeleteQueueFleetAssociation DeleteQueueLimitAssociation",
      "DeleteStorageProfile DeleteWorker DisassociateMemberFromFarm DisassociateMemberFromFleet",
      "DisassociateMemberFromJob DisassociateMemberFromQueue GetBudget GetFarm GetFleet GetJob",
      "GetLicenseEndpoint GetLimit GetMonitor GetMonitorSettings GetQueue GetQueueEnvironment",
      "GetQueueFleetAssociation GetQueueLimitAssociation GetSession GetSessionAction",
      "GetSessionsStatisticsAggregation GetStep GetStorageProfile GetStorageProfileForQueue",
      "GetTask GetWorker ListAvailableMeteredProducts ListBudgets ListFarmMembers ListFarms",
      "ListFleetMembers ListFleets ListJobMembers ListJobParameterDefinitions ListJobs",
      "ListLicenseEndpoints ListLimits ListMeteredProducts ListMonitors ListQueueEnvironments",
      "ListQueueFleetAssociations ListQueueLimitAssociations ListQueueMembers ListQueues",
      "ListSessionActions ListSessions ListSessionsForWorker ListStepConsumers",
      "ListStepDependencies ListSteps ListStorageProfiles ListStorageProfilesForQueue",
      "ListTagsForResource ListTasks ListWorkers PutMeteredProduct SearchJobs SearchSteps",
      "SearchTasks SearchWorkers StartSessionsStatisticsAggregation TagResource UntagResource",
      "UpdateBudget UpdateFarm UpdateFleet UpdateJob UpdateLimit UpdateMonitor",
      "UpdateMonitorSettings UpdateQueue UpdateQueueEnvironment UpdateQueueFleetAssociation",
      "UpdateQueueLimitAssociation UpdateSession UpdateStep UpdateStorageProfile UpdateTask",
      "UpdateWorker UpdateWorkerSchedule"]),
    ("detective", [
      "AcceptInvitation BatchGetGraphMemberDatasources BatchGetMembershipDatasources",
      "CreateGraph CreateMembers DeleteGraph DeleteMembers DescribeOrganizationConfiguration",
      "DisableOrganizationAdminAccount DisassociateMembership EnableOrganizationAdminAccount",
      "GetInvestigation GetMembers ListDatasourcePackages ListGraphs ListIndicators",
      "ListInvestigations ListInvitations ListMembers ListOrganizationAdminAccounts",
      "ListTagsForResource RejectInvitation StartInvestigation StartMonitoringMember",
      "TagResource UntagResource UpdateDatasourcePackages UpdateInvestigationState",
      "UpdateOrganizationConfiguration"]),
    ("devicefarm", [
      "CreateDevicePool CreateInstanceProfile CreateNetworkProfile CreateProject",
      "CreateRemoteAccessSession CreateTestGridProject CreateTestGridUrl CreateUpload",
      "CreateVPCEConfiguration DeleteDevicePool DeleteInstanceProfile DeleteNetworkProfile",
      "DeleteProject DeleteRemoteAccessSession DeleteRun DeleteTestGridProject DeleteUpload",
      "DeleteVPCEConfiguration GetAccountSettings GetDevice GetDeviceInstance GetDevicePool",
      "GetDevicePoolCompatibility GetInstanceProfile GetJob GetNetworkProfile GetOfferingStatus",
      "GetProject GetRemoteAccessSession GetRun GetSuite GetTest GetTestGridProject",
      "GetTestGridSession GetUpload GetVPCEConfiguration InstallToRemoteAccessSession",
      "ListArtifacts ListDeviceInstances ListDevicePools ListDevices ListInstanceProfiles",
      "ListJobs ListNetworkProfiles ListOfferingPromotions ListOfferingTransactions",
      "ListOfferings ListProjects ListRemoteAccessSessions ListRuns ListSamples ListSuites",
      "ListTagsForResource ListTestGridProjects ListTestGridSessionActions",
      "ListTestGridSessionArtifacts ListTestGridSessions ListTests ListUniqueProblems",
      "ListUploads ListVPCEConfigurations PurchaseOffering RenewOffering ScheduleRun StopJob",
      "StopRemoteAccessSession StopRun TagResource UntagResource UpdateDeviceInstance",
      "UpdateDevicePool UpdateInstanceProfile UpdateNetworkProfile UpdateProject",
      "UpdateTestGridProject UpdateUpload UpdateVPCEConfiguration"]),
    ("devops-guru", [
      "AddNotificationChannel DeleteInsight DescribeAccountHealth DescribeAccountOverview",
      "DescribeAnomaly DescribeEventSourcesConfig DescribeFeedback DescribeInsight",
      "DescribeOrganizationHealth DescribeOrganizationOverview",
      "DescribeOrganizationResourceCollectionHealth DescribeResourceCollectionHealth",
      "DescribeServiceIntegration GetCostEstimation GetResourceCollection",
      "ListAnomaliesForInsight ListAnomalousLogGroups ListEvents ListInsights",
      "ListMonitoredResources ListNotificationChannels ListOrganizationInsights",
      "ListRecommendations PutFeedback RemoveNotificationChannel SearchInsights",
      "SearchOrganizationInsights StartCostEstimation UpdateEventSourcesConfig",
      "UpdateResourceCollection UpdateServiceIntegration"]),
    ("directconnect", [
      "AcceptDirectConnectGatewayAssociationProposal AllocateConnectionOnInterconnect",
      "AllocateHostedConnection AllocatePrivateVirtualInterface AllocatePublicVirtualInterface",
      "AllocateTransitVirtualInterface AssociateConnectionWithLag AssociateHostedConnection",
      "AssociateMacSecKey AssociateVirtualInterface ConfirmConnection ConfirmCustomerAgreement",
      "ConfirmPrivateVirtualInterface ConfirmPublicVirtualInterface",
      "ConfirmTransitVirtualInterface CreateBGPPeer CreateConnection CreateDirectConnectGateway",
      "CreateDirectConnectGatewayAssociation CreateDirectConnectGatewayAssociationProposal",
      "CreateInterconnect CreateLag CreatePrivateVirtualInterface CreatePublicVirtualInterface",
      "CreateTransitVirtualInterface DeleteBGPPeer DeleteConnection DeleteDirectConnectGateway",
      "DeleteDirectConnectGatewayAssociation DeleteDirectConnectGatewayAssociationProposal",
      "DeleteInterconnect DeleteLag DeleteVirtualInterface DescribeConnectionLoa",
      "DescribeConnections DescribeConnectionsOnInterconnect DescribeCustomerMetadata",
      "DescribeDirectConnectGatewayAssociationProposals",
      "DescribeDirectConnectGatewayAssociations DescribeDirectConnectGatewayAttachments",
      "DescribeDirectConnectGateways DescribeHostedConnections DescribeInterconnectLoa",
      "DescribeInterconnects DescribeLags DescribeLoa DescribeLocations",
      "DescribeRouterConfiguration DescribeTags DescribeVirtualGateways",
      "DescribeVirtualInterfaces DisassociateConnectionFromLag DisassociateMacSecKey",
      "ListVirtualInterfaceTestHistory StartBgpFailoverTest StopBgpFailoverTest TagResource",
      "UntagResource UpdateConnection UpdateDirectConnectGateway",
      "UpdateDirectConnectGatewayAssociation UpdateLag UpdateVirtualInterfaceAttributes"]),
    ("discovery", [
      "AssociateConfigurationItemsToApplication BatchDeleteAgents BatchDeleteImportData",
      "CreateApplication CreateTags DeleteApplications DeleteTags DescribeAgents",
      "DescribeBatchDeleteConfigurationTask DescribeConfigurations DescribeContinuousExports",
      "DescribeExportConfigurations DescribeExportTasks DescribeImportTasks DescribeTags",
      "DisassociateConfigurationItemsFromApplication ExportConfigurations GetDiscoverySummary",
      "ListConfigurations ListServerNeighbors StartBatchDeleteConfigurationTask",
      "StartContinuousExport StartDataCollectionByAgentIds StartExportTask StartImportTask",
      "StopContinuousExport StopDataCollectionByAgentIds UpdateApplication"]),
    ("dlm", [
      "CreateLifecyclePolicy DeleteLifecyclePolicy GetLifecyclePolicies GetLifecyclePolicy",
      "ListTagsForResource TagResource UntagResource UpdateLifecyclePolicy"]),
    ("dms", [
      "AddTagsToResource ApplyPendingMaintenanceAction BatchStartRecommendations",
      "CancelMetadataModelConversion CancelMetadataModelCreation",
      "CancelReplicationTaskAssessmentRun CreateDataMigration CreateDataProvider CreateEndpoint",
      "CreateEventSubscription CreateFleetAdvisorCollector CreateInstanceProfile",
      "CreateMigrationProject CreateReplicationConfig CreateReplicationInstance",
      "CreateReplicationSubnetGroup CreateReplicationTask DeleteCertificate DeleteConnection",
      "DeleteDataMigration DeleteDataProvider DeleteEndpoint DeleteEventSubscription",
      "DeleteFleetAdvisorCollector DeleteFleetAdvisorDatabases DeleteInstanceProfile",
      "DeleteMigrationProject DeleteReplicationConfig DeleteReplicationInstance",
      "DeleteReplicationSubnetGroup DeleteReplicationTask DeleteReplicationTaskAssessmentRun",
      "DescribeAccountAttributes DescribeApplicableIndividualAssessments DescribeCertificates",
      "DescribeConnections DescribeConversionConfiguration DescribeDataMigrations",
      "DescribeDataProviders DescribeEndpointSettings DescribeEndpointTypes DescribeEndpoints",
      "DescribeEngineVersions DescribeEventCategories DescribeEventSubscriptions DescribeEvents",
      "DescribeExtensionPackAssociations DescribeFleetAdvisorCollectors",
      "DescribeFleetAdvisorDatabases DescribeFleetAdvisorLsaAnalysis",
      "DescribeFleetAdvisorSchemaObjectSummary DescribeFleetAdvisorSchemas",
      "DescribeInstanceProfiles DescribeMetadataModel DescribeMetadataModelAssessments",
      "DescribeMetadataModelChildren DescribeMetadataModelConversions",
      "DescribeMetadataModelCreations DescribeMetadataModelExportsAsScript",
      "DescribeMetadataModelExportsToTarget DescribeMetadataModelImports",
      "DescribeMigrationProjects DescribeOrderableReplicationInstances",
      "DescribePendingMaintenanceActions DescribeRecommendationLimitations",
      "DescribeRecommendations DescribeRefreshSchemasStatus DescribeReplicationConfigs",
      "DescribeReplicationInstanceTaskLogs DescribeReplicationInstances",
      "DescribeReplicationSubnetGroups DescribeReplicationTableStatistics",
      "DescribeReplicationTaskAssessmentResults DescribeReplicationTaskAssessmentRuns",
      "DescribeReplicationTaskIndividualAssessments DescribeReplicationTasks",
      "DescribeReplications DescribeSchemas DescribeTableStatistics",
      "ExportMetadataModelAssessment GetTargetSelectionRules ImportCertificate",
      "ListTagsForResource ModifyConversionConfiguration ModifyDataMigration ModifyDataProvider",
      "ModifyEndpoint ModifyEventSubscription ModifyInstanceProfile ModifyMigrationProject",
      "ModifyReplicationConfig ModifyReplicationInstance ModifyReplicationSubnetGroup",
      "ModifyReplicationTask MoveReplicationTask RebootReplicationInstance RefreshSchemas",
      "ReloadReplicationTables ReloadTables RemoveTagsFromResource RunFleetAdvisorLsaAnalysis",
      "StartDataMigration StartExtensionPackAssociation StartMetadataModelAssessment",
      "StartMetadataModelConversion StartMetadataModelCreation StartMetadataModelExportAsScript",
      "StartMetadataModelExportToTarget StartMetadataModelImport StartRecommendations",
      "StartReplication StartReplicationTask StartReplicationTaskAssessment",
      "StartReplicationTaskAssessmentRun StopDataMigration StopReplication StopReplicationTask",
      "TestConnection UpdateSubscriptionsToEventBridge"]),
    ("docdb-elastic", [
      "ApplyPendingMaintenanceAction CopyClusterSnapshot CreateCluster CreateClusterSnapshot",
      "DeleteCluster DeleteClusterSnapshot GetCluster GetClusterSnapshot",
      "GetPendingMaintenanceAction ListClusterSnapshots ListClusters",
      "ListPendingMaintenanceActions ListTagsForResource RestoreClusterFromSnapshot",
      "StartCluster StopCluster TagResource UntagResource UpdateCluster"]),
    ("drs", [
      "AssociateSourceNetworkStack CreateExtendedSourceServer CreateLaunchConfigurationTemplate",
      "CreateReplicationConfigurationTemplate CreateSourceNetwork DeleteJob DeleteLaunchAction",
      "DeleteLaunchConfigurationTemplate DeleteRecoveryInstance",
      "DeleteReplicationConfigurationTemplate DeleteSourceNetwork DeleteSourceServer",
      "DescribeJobLogItems DescribeJobs DescribeLaunchConfigurationTemplates",
      "DescribeRecoveryInstances DescribeRecoverySnapshots",
      "DescribeReplicationConfigurationTemplates DescribeSourceNetworks DescribeSourceServers",
      "DisconnectRecoveryInstance DisconnectSourceServer ExportSourceNetworkCfnTemplate",
      "GetFailbackReplicationConfiguration GetLaunchConfiguration GetReplicationConfiguration",
      "InitializeService ListExtensibleSourceServers ListLaunchActions ListStagingAccounts",
      "ListTagsForResource PutLaunchAction RetryDataReplication ReverseReplication",
      "StartFailbackLaunch StartRecovery StartReplication StartSourceNetworkRecovery",
      "StartSourceNetworkReplication StopFailback StopReplication StopSourceNetworkReplication",
      "TagResource TerminateRecoveryInstances UntagResource",
      "UpdateFailbackReplicationConfiguration UpdateLaunchConfiguration",
      "UpdateLaunchConfigurationTemplate UpdateReplicationConfiguration",
      "UpdateReplicationConfigurationTemplate"]),
    ("ds", [
      "AcceptSharedDirectory AddIpRoutes AddRegion AddTagsToResource CancelSchemaExtension",
      "ConnectDirectory CreateAlias CreateComputer CreateConditionalForwarder CreateDirectory",
      "CreateHybridAD CreateLogSubscription CreateMicrosoftAD CreateSnapshot CreateTrust",
      "DeleteADAssessment DeleteConditionalForwarder DeleteDirectory DeleteLogSubscription",
      "DeleteSnapshot DeleteTrust DeregisterCertificate DeregisterEventTopic",
      "DescribeADAssessment DescribeCAEnrollmentPolicy DescribeCertificate",
      "DescribeClientAuthenticationSettings DescribeConditionalForwarders DescribeDirectories",
      "DescribeDirectoryDataAccess DescribeDomainControllers DescribeEventTopics",
      "DescribeHybridADUpdate DescribeLDAPSSettings DescribeRegions DescribeSettings",
      "DescribeSharedDirectories DescribeSnapshots DescribeTrusts DescribeUpdateDirectory",
      "DisableCAEnrollmentPolicy DisableClientAuthentication DisableDirectoryDataAccess",
      "DisableLDAPS DisableRadius DisableSso EnableCAEnrollmentPolicy",
      "EnableClientAuthentication EnableDirectoryDataAccess EnableLDAPS EnableRadius EnableSso",
      "GetDirectoryLimits GetSnapshotLimits ListADAssessments ListCertificates ListIpRoutes",
      "ListLogSubscriptions ListSchemaExtensions ListTagsForResource RegisterCertificate",
      "RegisterEventTopic RejectSharedDirectory RemoveIpRoutes RemoveRegion",
      "RemoveTagsFromResource ResetUserPassword RestoreFromSnapshot ShareDirectory",
      "StartADAssessment StartSchemaExtension UnshareDirectory UpdateConditionalForwarder",
      "UpdateDirectorySetup UpdateHybridAD UpdateNumberOfDomainControllers UpdateRadius",
      "UpdateSettings UpdateTrust VerifyTrust"]),
    ("ds-data", [
      "AddGroupMember CreateGroup CreateUser DeleteGroup DeleteUser DescribeGroup DescribeUser",
      "DisableUser ListGroupMembers ListGroups ListGroupsForMember ListUsers RemoveGroupMember",
      "SearchGroups SearchUsers UpdateGroup UpdateUser"]),
    ("dsql", [
      "CreateCluster CreateStream DeleteCluster DeleteClusterPolicy DeleteStream GetCluster",
      "GetClusterPolicy GetStream GetVpcEndpointServiceName ListClusters ListStreams",
      "ListTagsForResource PutClusterPolicy TagResource UntagResource UpdateCluster"]),
    ("dynamodb", [
      "BatchExecuteStatement BatchGetItem BatchWriteItem ConditionCheckItem CreateBackup",
      "CreateGlobalTable CreateTable DeleteBackup DeleteItem DeleteResourcePolicy DeleteTable",
      "DescribeBackup DescribeContinuousBackups DescribeContributorInsights DescribeEndpoints",
      "DescribeExport DescribeGlobalTable DescribeGlobalTableSettings DescribeImport",
      "DescribeKinesisStreamingDestination DescribeLimits DescribeStream DescribeTable",
      "DescribeTableReplicaAutoScaling DescribeTimeToLive DisableKinesisStreamingDestination",
      "EnableKinesisStreamingDestination ExecuteStatement ExecuteTransaction",
      "ExportTableToPointInTime GetItem GetRecords GetResourcePolicy GetShardIterator",
      "ImportTable ListBackups ListContributorInsights ListExports ListGlobalTables ListImports",
      "ListStreams ListTables ListTagsOfResource PutItem PutResourcePolicy Query",
      "RestoreTableFromBackup RestoreTableToPointInTime Scan TagResource TransactGetItems",
      "TransactWriteItems UntagResource UpdateContinuousBackups UpdateContributorInsights",
      "UpdateGlobalTable UpdateGlobalTableSettings UpdateItem UpdateKinesisStreamingDestination",
      "UpdateTable UpdateTableReplicaAutoScaling UpdateTimeToLive"]),
    ("ebs", [
      "CompleteSnapshot GetSnapshotBlock ListChangedBlocks ListSnapshotBlocks PutSnapshotBlock",
      "StartSnapshot"]),
    ("ec2", [
      "AcceptAddressTransfer AcceptCapacityReservationBillingOwnership",
      "AcceptReservedInstancesExchangeQuote AcceptTransitGatewayClientVpnAttachment",
      "AcceptTransitGatewayMulticastDomainAssociations AcceptTransitGatewayPeeringAttachment",
      "AcceptTransitGatewayVpcAttachment AcceptVpcEndpointConnections",
      "AcceptVpcPeeringConnection AdvertiseByoipCidr AllocateAddress AllocateHosts",
      "AllocateIpamPoolCidr ApplySecurityGroupsToClientVpnTargetNetwork AssignIpv6Addresses",
      "AssignPrivateIpAddresses AssignPrivateNatGatewayAddress AssociateAddress",
      "AssociateCapacityReservationBillingOwner AssociateClientVpnTargetNetwork",
      "AssociateDhcpOptions AssociateEnclaveCertificateIamRole AssociateIamInstanceProfile",
      "AssociateInstanceEventWindow AssociateIpamByoasn AssociateIpamResourceDiscovery",
      "AssociateNatGatewayAddress AssociateRouteServer AssociateRouteTable",
      "AssociateSecurityGroupVpc AssociateSubnetCidrBlock",
      "AssociateTransitGatewayMulticastDomain AssociateTransitGatewayPolicyTable",
      "AssociateTransitGatewayRouteTable AssociateTrunkInterface AssociateVpcCidrBlock",
      "AttachClassicLinkVpc AttachInternetGateway AttachNetworkInterface",
      "AttachVerifiedAccessTrustProvider AttachVolume AttachVpnGateway",
      "AuthorizeClientVpnIngress AuthorizeSecurityGroupEgress AuthorizeSecurityGroupIngress",
      "BundleInstance CancelBundleTask CancelCapacityReservation",
      "CancelCapacityReservationFleets CancelConversionTask CancelDeclarativePoliciesReport",
      "CancelExportTask CancelImageLaunchPermission CancelImportTask",
      "CancelReservedInstancesListing CancelSpotFleetRequests CancelSpotInstanceRequests",
      "ConfirmProductInstance CopyFpgaImage CopyImage CopySnapshot CopyVolumes",
      "CreateCapacityManagerDataExport CreateCapacityReservation",
      "CreateCapacityReservationBySplitting CreateCapacityReservationFleet CreateCarrierGateway",
      "CreateClientVpnEndpoint CreateClientVpnRoute CreateCoipCidr CreateCoipPool",
      "CreateCustomerGateway CreateDefaultSubnet CreateDefaultVpc",
      "CreateDelegateMacVolumeOwnershipTask CreateDhcpOptions CreateEgressOnlyInternetGateway",
      "CreateFleet CreateFlowLogs CreateFpgaImage CreateImage CreateImageUsageReport",
      "CreateInstanceConnectEndpoint CreateInstanceEventWindow CreateInstanceExportTask",
      "CreateInternetGateway CreateInterruptibleCapacityReservationAllocation CreateIpam",
      "CreateIpamExternalResourceVerificationToken CreateIpamPolicy CreateIpamPool",
      "CreateIpamPrefixListResolver CreateIpamPrefixListResolverTarget",
      "CreateIpamResourceDiscovery CreateIpamScope CreateKeyPair CreateLaunchTemplate",
      "CreateLaunchTemplateVersion CreateLocalGatewayRoute CreateLocalGatewayRouteTable",
      "CreateLocalGatewayRouteTableVirtualInterfaceGroupAssociation",
      "CreateLocalGatewayRouteTableVpcAssociation CreateLocalGatewayVirtualInterface",
      "CreateLocalGatewayVirtualInterfaceGroup",
      "CreateMacSystemIntegrityProtectionModificationTask CreateManagedPrefixList",
      "CreateNatGateway CreateNetworkAcl CreateNetworkAclEntry CreateNetworkInsightsAccessScope",
      "CreateNetworkInsightsPath CreateNetworkInterface CreateNetworkInterfacePermission",
      "CreatePlacementGroup CreatePublicIpv4Pool CreateReplaceRootVolumeTask",
      "CreateReservedInstancesListing CreateRestoreImageTask CreateRoute CreateRouteServer",
      "CreateRouteServerEndpoint CreateRouteServerPeer CreateRouteTable CreateSecondaryNetwork",
      "CreateSecondarySubnet CreateSecurityGroup CreateSnapshot CreateSnapshots",
      "CreateSpotDatafeedSubscription CreateStoreImageTask CreateSubnet",
      "CreateSubnetCidrReservation CreateTags CreateTrafficMirrorFilter",
      "CreateTrafficMirrorFilterRule CreateTrafficMirrorSession CreateTrafficMirrorTarget",
      "CreateTransitGateway CreateTransitGatewayConnect CreateTransitGatewayConnectPeer",
      "CreateTransitGatewayMeteringPolicy CreateTransitGatewayMeteringPolicyEntry",
      "CreateTransitGatewayMulticastDomain CreateTransitGatewayPeeringAttachment",
      "CreateTransitGatewayPolicyTable CreateTransitGatewayPrefixListReference",
      "CreateTransitGatewayRoute CreateTransitGatewayRouteTable",
      "CreateTransitGatewayRouteTableAnnouncement CreateTransitGatewayVpcAttachment",
      "CreateVerifiedAccessEndpoint CreateVerifiedAccessGroup CreateVerifiedAccessInstance",
      "CreateVerifiedAccessTrustProvider CreateVolume CreateVpc",
      "CreateVpcBlockPublicAccessExclusion CreateVpcEncryptionControl CreateVpcEndpoint",
      "CreateVpcEndpointConnectionNotification CreateVpcEndpointServiceConfiguration",
      "CreateVpcPeeringConnection CreateVpnConcentrator CreateVpnConnection",
      "CreateVpnConnectionRoute CreateVpnGateway DeleteCapacityManagerDataExport",
      "DeleteCarrierGateway DeleteClientVpnEndpoint DeleteClientVpnRoute DeleteCoipCidr",
      "DeleteCoipPool DeleteCustomerGateway DeleteDhcpOptions DeleteEgressOnlyInternetGateway",
      "DeleteFleets DeleteFlowLogs DeleteFpgaImage DeleteImageUsageReport",
      "DeleteInstanceConnectEndpoint DeleteInstanceEventWindow DeleteInternetGateway DeleteIpam",
      "DeleteIpamExternalResourceVerificationToken DeleteIpamPolicy DeleteIpamPool",
      "DeleteIpamPrefixListResolver DeleteIpamPrefixListResolverTarget",
      "DeleteIpamResourceDiscovery DeleteIpamScope DeleteKeyPair DeleteLaunchTemplate",
      "DeleteLaunchTemplateVersions DeleteLocalGatewayRoute DeleteLocalGatewayRouteTable",
      "DeleteLocalGatewayRouteTableVirtualInterfaceGroupAssociation",
      "DeleteLocalGatewayRouteTableVpcAssociation DeleteLocalGatewayVirtualInterface",
      "DeleteLocalGatewayVirtualInterfaceGroup DeleteManagedPrefixList DeleteNatGateway",
      "DeleteNetworkAcl DeleteNetworkAclEntry DeleteNetworkInsightsAccessScope",
      "DeleteNetworkInsightsAccessScopeAnalysis DeleteNetworkInsightsAnalysis",
      "DeleteNetworkInsightsPath DeleteNetworkInterface DeleteNetworkInterfacePermission",
      "DeletePlacementGroup DeletePublicIpv4Pool DeleteQueuedReservedInstances DeleteRoute",
      "DeleteRouteServer DeleteRouteServerEndpoint DeleteRouteServerPeer DeleteRouteTable",
      "DeleteSecondaryNetwork DeleteSecondarySubnet DeleteSecurityGroup DeleteSnapshot",
      "DeleteSpotDatafeedSubscription DeleteSubnet DeleteSubnetCidrReservation DeleteTags",
      "DeleteTrafficMirrorFilter DeleteTrafficMirrorFilterRule DeleteTrafficMirrorSession",
      "DeleteTrafficMirrorTarget DeleteTransitGateway DeleteTransitGatewayClientVpnAttachment",
      "DeleteTransitGatewayConnect DeleteTransitGatewayConnectPeer",
      "DeleteTransitGatewayMeteringPolicy DeleteTransitGatewayMeteringPolicyEntry",
      "DeleteTransitGatewayMulticastDomain DeleteTransitGatewayPeeringAttachment",
      "DeleteTransitGatewayPolicyTable DeleteTransitGatewayPrefixListReference",
      "DeleteTransitGatewayRoute DeleteTransitGatewayRouteTable",
      "DeleteTransitGatewayRouteTableAnnouncement DeleteTransitGatewayVpcAttachment",
      "DeleteVerifiedAccessEndpoint DeleteVerifiedAccessGroup DeleteVerifiedAccessInstance",
      "DeleteVerifiedAccessTrustProvider DeleteVolume DeleteVpc",
      "DeleteVpcBlockPublicAccessExclusion DeleteVpcEncryptionControl",
      "DeleteVpcEndpointConnectionNotifications DeleteVpcEndpointServiceConfigurations",
      "DeleteVpcEndpoints DeleteVpcPeeringConnection DeleteVpnConcentrator DeleteVpnConnection",
      "DeleteVpnConnectionRoute DeleteVpnGateway DeprovisionByoipCidr DeprovisionIpamByoasn",
      "DeprovisionIpamPoolCidr DeprovisionPublicIpv4PoolCidr DeregisterImage",
      "DeregisterInstanceEventNotificationAttributes",
      "DeregisterTransitGatewayMulticastGroupMembers",
      "DeregisterTransitGatewayMulticastGroupSources DescribeAccountAttributes",
      "DescribeAddressTransfers DescribeAddresses DescribeAddressesAttribute",
      "DescribeAggregateIdFormat DescribeAvailabilityZones",
      "DescribeAwsNetworkPerformanceMetricSubscriptions DescribeBundleTasks DescribeByoipCidrs",
      "DescribeCapacityBlockExtensionHistory DescribeCapacityBlockExtensionOfferings",
      "DescribeCapacityBlockOfferings DescribeCapacityBlockStatus DescribeCapacityBlocks",
      "DescribeCapacityManagerDataExports DescribeCapacityReservationBillingRequests",
      "DescribeCapacityReservationFleets DescribeCapacityReservationTopology",
      "DescribeCapacityReservations DescribeCarrierGateways DescribeClassicLinkInstances",
      "DescribeClientVpnAuthorizationRules DescribeClientVpnConnections",
      "DescribeClientVpnEndpoints DescribeClientVpnRoutes DescribeClientVpnTargetNetworks",
      "DescribeCoipPools DescribeConversionTasks DescribeCustomerGateways",
      "DescribeDeclarativePoliciesReports DescribeDhcpOptions",
      "DescribeEgressOnlyInternetGateways DescribeElasticGpus DescribeExportImageTasks",
      "DescribeExportTasks DescribeFastLaunchImages DescribeFastSnapshotRestores",
      "DescribeFleetHistory DescribeFleetInstances DescribeFleets DescribeFlowLogs",
      "DescribeFpgaImageAttribute DescribeFpgaImages DescribeHostReservationOfferings",
      "DescribeHostReservations DescribeHosts DescribeIamInstanceProfileAssociations",
      "DescribeIdFormat DescribeIdentityIdFormat DescribeImageAttribute DescribeImageReferences",
      "DescribeImageUsageReportEntries DescribeImageUsageReports DescribeImages",
      "DescribeImportImageTasks DescribeImportSnapshotTasks DescribeInstanceAttribute",
      "DescribeInstanceConnectEndpoints DescribeInstanceCreditSpecifications",
      "DescribeInstanceEventNotificationAttributes DescribeInstanceEventWindows",
      "DescribeInstanceImageMetadata DescribeInstanceSqlHaHistoryStates",
      "DescribeInstanceSqlHaStates DescribeInstanceStatus DescribeInstanceTopology",
      "DescribeInstanceTypeOfferings DescribeInstanceTypes DescribeInstances",
      "DescribeInternetGateways DescribeIpamByoasn",
      "DescribeIpamExternalResourceVerificationTokens DescribeIpamPolicies",
      "DescribeIpamPoolAllocations DescribeIpamPools DescribeIpamPrefixListResolverTargets",
      "DescribeIpamPrefixListResolvers DescribeIpamResourceDiscoveries",
      "DescribeIpamResourceDiscoveryAssociations DescribeIpamScopes DescribeIpams",
      "DescribeIpv6Pools DescribeKeyPairs DescribeLaunchTemplateVersions",
      "DescribeLaunchTemplates DescribeLocalGatewayRouteTableVirtualInterfaceGroupAssociations",
      "DescribeLocalGatewayRouteTableVpcAssociations DescribeLocalGatewayRouteTables",
      "DescribeLocalGatewayVirtualInterfaceGroups DescribeLocalGatewayVirtualInterfaces",
      "DescribeLocalGateways DescribeLockedSnapshots DescribeMacHosts",
      "DescribeMacModificationTasks DescribeManagedPrefixLists DescribeMovingAddresses",
      "DescribeNatGateways DescribeNetworkAcls DescribeNetworkInsightsAccessScopeAnalyses",
      "DescribeNetworkInsightsAccessScopes DescribeNetworkInsightsAnalyses",
      "DescribeNetworkInsightsPaths DescribeNetworkInterfaceAttribute",
      "DescribeNetworkInterfacePermissions DescribeNetworkInterfaces DescribeOutpostLags",
      "DescribePlacementGroups DescribePrefixLists DescribePrincipalIdFormat",
      "DescribePublicIpv4Pools DescribeRegions DescribeReplaceRootVolumeTasks",
      "DescribeReservedInstances DescribeReservedInstancesListings",
      "DescribeReservedInstancesModifications DescribeReservedInstancesOfferings",
      "DescribeRouteServerEndpoints DescribeRouteServerPeers DescribeRouteServers",
      "DescribeRouteTables DescribeScheduledInstanceAvailability DescribeScheduledInstances",
      "DescribeSecondaryInterfaces DescribeSecondaryNetworks DescribeSecondarySubnets",
      "DescribeSecurityGroupReferences DescribeSecurityGroupRules",
      "DescribeSecurityGroupVpcAssociations DescribeSecurityGroups",
      "DescribeServiceLinkVirtualInterfaces DescribeSnapshotAttribute",
      "DescribeSnapshotTierStatus DescribeSnapshots DescribeSpotDatafeedSubscription",
      "DescribeSpotFleetInstances DescribeSpotFleetRequestHistory DescribeSpotFleetRequests",
      "DescribeSpotInstanceRequests DescribeSpotPriceHistory DescribeStaleSecurityGroups",
      "DescribeStoreImageTasks DescribeSubnets DescribeTags DescribeTrafficMirrorFilterRules",
      "DescribeTrafficMirrorFilters DescribeTrafficMirrorSessions DescribeTrafficMirrorTargets",
      "DescribeTransitGatewayAttachments DescribeTransitGatewayConnectPeers",
      "DescribeTransitGatewayConnects DescribeTransitGatewayMeteringPolicies",
      "DescribeTransitGatewayMulticastDomains DescribeTransitGatewayPeeringAttachments",
      "DescribeTransitGatewayPolicyTables DescribeTransitGatewayRouteTableAnnouncements",
      "DescribeTransitGatewayRouteTables DescribeTransitGatewayVpcAttachments",
      "DescribeTransitGateways DescribeTrunkInterfaceAssociations",
      "DescribeVerifiedAccessEndpoints DescribeVerifiedAccessGroups",
      "DescribeVerifiedAccessInstanceLoggingConfigurations DescribeVerifiedAccessInstances",
      "DescribeVerifiedAccessTrustProviders DescribeVolumeAttribute DescribeVolumeStatus",
      "DescribeVolumes DescribeVolumesModifications DescribeVpcAttribute",
      "DescribeVpcBlockPublicAccessExclusions DescribeVpcBlockPublicAccessOptions",
      "DescribeVpcClassicLink DescribeVpcClassicLinkDnsSupport DescribeVpcEncryptionControls",
      "DescribeVpcEndpointAssociations DescribeVpcEndpointConnectionNotifications",
      "DescribeVpcEndpointConnections DescribeVpcEndpointServiceConfigurations",
      "DescribeVpcEndpointServicePermissions DescribeVpcEndpointServices DescribeVpcEndpoints",
      "DescribeVpcPeeringConnections DescribeVpcs DescribeVpnConcentrators",
      "DescribeVpnConnections DescribeVpnGateways DetachClassicLinkVpc DetachInternetGateway",
      "DetachNetworkInterface DetachVerifiedAccessTrustProvider DetachVolume DetachVpnGateway",
      "DisableAddressTransfer DisableAllowedImagesSettings",
      "DisableAwsNetworkPerformanceMetricSubscription DisableCapacityManager",
      "DisableEbsEncryptionByDefault DisableFastLaunch DisableFastSnapshotRestores DisableImage",
      "DisableImageBlockPublicAccess DisableImageDeprecation",
      "DisableImageDeregistrationProtection DisableInstanceSqlHaStandbyDetections",
      "DisableIpamOrganizationAdminAccount DisableIpamPolicy DisableRouteServerPropagation",
      "DisableSerialConsoleAccess DisableSnapshotBlockPublicAccess",
      "DisableTransitGatewayRouteTablePropagation DisableVgwRoutePropagation",
      "DisableVpcClassicLink DisableVpcClassicLinkDnsSupport DisassociateAddress",
      "DisassociateCapacityReservationBillingOwner DisassociateClientVpnTargetNetwork",
      "DisassociateEnclaveCertificateIamRole DisassociateIamInstanceProfile",
      "DisassociateInstanceEventWindow DisassociateIpamByoasn DisassociateIpamResourceDiscovery",
      "DisassociateNatGatewayAddress DisassociateRouteServer DisassociateRouteTable",
      "DisassociateSecurityGroupVpc DisassociateSubnetCidrBlock",
      "DisassociateTransitGatewayMulticastDomain DisassociateTransitGatewayPolicyTable",
      "DisassociateTransitGatewayRouteTable DisassociateTrunkInterface DisassociateVpcCidrBlock",
      "EnableAddressTransfer EnableAllowedImagesSettings",
      "EnableAwsNetworkPerformanceMetricSubscription EnableCapacityManager",
      "EnableEbsEncryptionByDefault EnableFastLaunch EnableFastSnapshotRestores EnableImage",
      "EnableImageBlockPublicAccess EnableImageDeprecation EnableImageDeregistrationProtection",
      "EnableInstanceSqlHaStandbyDetections EnableIpamOrganizationAdminAccount EnableIpamPolicy",
      "EnableReachabilityAnalyzerOrganizationSharing EnableRouteServerPropagation",
      "EnableSerialConsoleAccess EnableSnapshotBlockPublicAccess",
      "EnableTransitGatewayRouteTablePropagation EnableVgwRoutePropagation EnableVolumeIO",
      "EnableVpcClassicLink EnableVpcClassicLinkDnsSupport",
      "ExportClientVpnClientCertificateRevocationList ExportClientVpnClientConfiguration",
      "ExportImage ExportTransitGatewayRoutes ExportVerifiedAccessInstanceClientConfiguration",
      "GetActiveVpnTunnelStatus GetAllowedImagesSettings",
      "GetAssociatedEnclaveCertificateIamRoles GetAssociatedIpv6PoolCidrs",
      "GetAwsNetworkPerformanceData GetCapacityManagerAttributes GetCapacityManagerMetricData",
      "GetCapacityManagerMetricDimensions GetCapacityManagerMonitoredTagKeys",
      "GetCapacityReservationUsage GetCoipPoolUsage GetConsoleOutput GetConsoleScreenshot",
      "GetDeclarativePoliciesReportSummary GetDefaultCreditSpecification GetEbsDefaultKmsKeyId",
      "GetEbsEncryptionByDefault GetEnabledIpamPolicy GetFlowLogsIntegrationTemplate",
      "GetGroupsForCapacityReservation GetHostReservationPurchasePreview GetImageAncestry",
      "GetImageBlockPublicAccessState GetInstanceMetadataDefaults GetInstanceTpmEkPub",
      "GetInstanceTypesFromInstanceRequirements GetInstanceUefiData GetIpamAddressHistory",
      "GetIpamDiscoveredAccounts GetIpamDiscoveredPublicAddresses",
      "GetIpamDiscoveredResourceCidrs GetIpamPolicyAllocationRules",
      "GetIpamPolicyOrganizationTargets GetIpamPoolAllocations GetIpamPoolCidrs",
      "GetIpamPrefixListResolverRules GetIpamPrefixListResolverVersionEntries",
      "GetIpamPrefixListResolverVersions GetIpamResourceCidrs GetLaunchTemplateData",
      "GetManagedPrefixListAssociations GetManagedPrefixListEntries",
      "GetManagedResourceVisibility GetNetworkInsightsAccessScopeAnalysisFindings",
      "GetNetworkInsightsAccessScopeContent GetPasswordData GetReservedInstancesExchangeQuote",
      "GetRouteServerAssociations GetRouteServerPropagations GetRouteServerRoutingDatabase",
      "GetSecurityGroupsForVpc GetSerialConsoleAccessStatus GetSnapshotBlockPublicAccessState",
      "GetSpotPlacementScores GetSubnetCidrReservations GetTransitGatewayAttachmentPropagations",
      "GetTransitGatewayMeteringPolicyEntries GetTransitGatewayMulticastDomainAssociations",
      "GetTransitGatewayPolicyTableAssociations GetTransitGatewayPolicyTableEntries",
      "GetTransitGatewayPrefixListReferences GetTransitGatewayRouteTableAssociations",
      "GetTransitGatewayRouteTablePropagations GetVerifiedAccessEndpointPolicy",
      "GetVerifiedAccessEndpointTargets GetVerifiedAccessGroupPolicy",
      "GetVpcResourcesBlockingEncryptionEnforcement GetVpnConnectionDeviceSampleConfiguration",
      "GetVpnConnectionDeviceTypes GetVpnTunnelReplacementStatus",
      "ImportClientVpnClientCertificateRevocationList ImportImage ImportInstance ImportKeyPair",
      "ImportSnapshot ImportVolume ListImagesInRecycleBin ListSnapshotsInRecycleBin",
      "ListVolumesInRecycleBin LockSnapshot ModifyAddressAttribute ModifyAvailabilityZoneGroup",
      "ModifyCapacityReservation ModifyCapacityReservationFleet ModifyClientVpnEndpoint",
      "ModifyDefaultCreditSpecification ModifyEbsDefaultKmsKeyId ModifyFleet",
      "ModifyFpgaImageAttribute ModifyHosts ModifyIdFormat ModifyIdentityIdFormat",
      "ModifyImageAttribute ModifyInstanceAttribute ModifyInstanceCapacityReservationAttributes",
      "ModifyInstanceConnectEndpoint ModifyInstanceCpuOptions ModifyInstanceCreditSpecification",
      "ModifyInstanceEventStartTime ModifyInstanceEventWindow ModifyInstanceMaintenanceOptions",
      "ModifyInstanceMetadataDefaults ModifyInstanceMetadataOptions",
      "ModifyInstanceNetworkPerformanceOptions ModifyInstancePlacement ModifyIpam",
      "ModifyIpamPolicyAllocationRules ModifyIpamPool ModifyIpamPoolAllocation",
      "ModifyIpamPrefixListResolver ModifyIpamPrefixListResolverTarget ModifyIpamResourceCidr",
      "ModifyIpamResourceDiscovery ModifyIpamScope ModifyLaunchTemplate ModifyLocalGatewayRoute",
      "ModifyManagedPrefixList ModifyManagedResourceVisibility ModifyNetworkInterfaceAttribute",
      "ModifyPrivateDnsNameOptions ModifyPublicIpDnsNameOptions ModifyReservedInstances",
      "ModifyRouteServer ModifySecurityGroupRules ModifySnapshotAttribute ModifySnapshotTier",
      "ModifySpotFleetRequest ModifySubnetAttribute ModifyTrafficMirrorFilterNetworkServices",
      "ModifyTrafficMirrorFilterRule ModifyTrafficMirrorSession ModifyTransitGateway",
      "ModifyTransitGatewayMeteringPolicy ModifyTransitGatewayPrefixListReference",
      "ModifyTransitGatewayVpcAttachment ModifyVerifiedAccessEndpoint",
      "ModifyVerifiedAccessEndpointPolicy ModifyVerifiedAccessGroup",
      "ModifyVerifiedAccessGroupPolicy ModifyVerifiedAccessInstance",
      "ModifyVerifiedAccessInstanceLoggingConfiguration ModifyVerifiedAccessTrustProvider",
      "ModifyVolume ModifyVolumeAttribute ModifyVpcAttribute",
      "ModifyVpcBlockPublicAccessExclusion ModifyVpcBlockPublicAccessOptions",
      "ModifyVpcEncryptionControl ModifyVpcEndpoint ModifyVpcEndpointConnectionNotification",
      "ModifyVpcEndpointServiceConfiguration ModifyVpcEndpointServicePayerResponsibility",
      "ModifyVpcEndpointServicePermissions ModifyVpcPeeringConnectionOptions ModifyVpcTenancy",
      "ModifyVpnConnection ModifyVpnConnectionOptions ModifyVpnTunnelCertificate",
      "ModifyVpnTunnelOptions MonitorInstances MoveAddressToVpc MoveByoipCidrToIpam",
      "MoveCapacityReservationInstances ProvisionByoipCidr ProvisionIpamByoasn",
      "ProvisionIpamPoolCidr ProvisionPublicIpv4PoolCidr PurchaseCapacityBlock",
      "PurchaseCapacityBlockExtension PurchaseHostReservation PurchaseReservedInstancesOffering",
      "PurchaseScheduledInstances RebootInstances RegisterImage",
      "RegisterInstanceEventNotificationAttributes RegisterTransitGatewayMulticastGroupMembers",
      "RegisterTransitGatewayMulticastGroupSources RejectCapacityReservationBillingOwnership",
      "RejectTransitGatewayClientVpnAttachment RejectTransitGatewayMulticastDomainAssociations",
      "RejectTransitGatewayPeeringAttachment RejectTransitGatewayVpcAttachment",
      "RejectVpcEndpointConnections RejectVpcPeeringConnection ReleaseAddress ReleaseHosts",
      "ReleaseIpamPoolAllocation ReplaceIamInstanceProfileAssociation",
      "ReplaceImageCriteriaInAllowedImagesSettings ReplaceNetworkAclAssociation",
      "ReplaceNetworkAclEntry ReplaceRoute ReplaceRouteTableAssociation",
      "ReplaceTransitGatewayRoute ReplaceVpnTunnel ReportInstanceStatus RequestSpotFleet",
      "RequestSpotInstances ResetAddressAttribute ResetEbsDefaultKmsKeyId",
      "ResetFpgaImageAttribute ResetImageAttribute ResetInstanceAttribute",
      "ResetNetworkInterfaceAttribute ResetSnapshotAttribute RestoreAddressToClassic",
      "RestoreImageFromRecycleBin RestoreManagedPrefixListVersion RestoreSnapshotFromRecycleBin",
      "RestoreSnapshotTier RestoreVolumeFromRecycleBin RevokeClientVpnIngress",
      "RevokeSecurityGroupEgress RevokeSecurityGroupIngress RunInstances RunScheduledInstances",
      "SearchLocalGatewayRoutes SearchTransitGatewayMulticastGroups SearchTransitGatewayRoutes",
      "SendDiagnosticInterrupt StartDeclarativePoliciesReport StartInstances",
      "StartNetworkInsightsAccessScopeAnalysis StartNetworkInsightsAnalysis",
      "StartVpcEndpointServicePrivateDnsVerification StopInstances",
      "TerminateClientVpnConnections TerminateInstances UnassignIpv6Addresses",
      "UnassignPrivateIpAddresses UnassignPrivateNatGatewayAddress UnlockSnapshot",
      "UnmonitorInstances UpdateCapacityManagerMonitoredTagKeys",
      "UpdateCapacityManagerOrganizationsAccess",
      "UpdateInterruptibleCapacityReservationAllocation",
      "UpdateSecurityGroupRuleDescriptionsEgress UpdateSecurityGroupRuleDescriptionsIngress",
      "WithdrawByoipCidr"]),
    ("ec2-instance-connect", ["SendSSHPublicKey SendSerialConsoleSSHPublicKey"]),
    ("ecr", [
      "BatchCheckLayerAvailability BatchDeleteImage BatchGetImage",
      "BatchGetRepositoryScanningConfiguration CompleteLayerUpload CreatePullThroughCacheRule",
      "CreateRepository CreateRepositoryCreationTemplate DeleteLifecyclePolicy",
      "DeletePullThroughCacheRule DeleteRegistryPolicy DeleteRepository",
      "DeleteRepositoryCreationTemplate DeleteRepositoryPolicy DeleteSigningConfiguration",
      "DeregisterPullTimeUpdateExclusion DescribeImageReplicationStatus",
      "DescribeImageScanFindings DescribeImageSigningStatus DescribeImages",
      "DescribePullThroughCacheRules DescribeRegistry DescribeRepositories",
      "DescribeRepositoryCreationTemplates GetAccountSetting GetAuthorizationToken",
      "GetDownloadUrlForLayer GetLifecyclePolicy GetLifecyclePolicyPreview GetRegistryPolicy",
      "GetRegistryScanningConfiguration GetRepositoryPolicy GetSigningConfiguration",
      "InitiateLayerUpload ListImageReferrers ListImages ListPullTimeUpdateExclusions",
      "ListTagsForResource PutAccountSetting PutImage PutImageScanningConfiguration",
      "PutImageTagMutability PutLifecyclePolicy PutRegistryPolicy",
      "PutRegistryScanningConfiguration PutReplicationConfiguration PutSigningConfiguration",
      "RegisterPullTimeUpdateExclusion SetRepositoryPolicy StartImageScan",
      "StartLifecyclePolicyPreview TagResource UntagResource UpdateImageStorageClass",
      "UpdatePullThroughCacheRule UpdateRepositoryCreationTemplate UploadLayerPart",
      "ValidatePullThroughCacheRule"]),
    ("ecr-public", [
      "BatchCheckLayerAvailability BatchDeleteImage CompleteLayerUpload CreateRepository",
      "DeleteRepository DeleteRepositoryPolicy DescribeImageTags DescribeImages",
      "DescribeRegistries DescribeRepositories GetAuthorizationToken GetRegistryCatalogData",
      "GetRepositoryCatalogData GetRepositoryPolicy InitiateLayerUpload ListTagsForResource",
      "PutImage PutRegistryCatalogData PutRepositoryCatalogData SetRepositoryPolicy TagResource",
      "UntagResource UploadLayerPart"]),
    ("ecs", [
      "ContinueServiceDeployment CreateCapacityProvider CreateCluster CreateDaemon",
      "CreateExpressGatewayService CreateService CreateTaskSet DeleteAccountSetting",
      "DeleteAttributes DeleteCapacityProvider DeleteCluster DeleteDaemon",
      "DeleteDaemonTaskDefinition DeleteExpressGatewayService DeleteService",
      "DeleteTaskDefinitions DeleteTaskSet DeregisterContainerInstance DeregisterTaskDefinition",
      "DescribeCapacityProviders DescribeClusters DescribeContainerInstances DescribeDaemon",
      "DescribeDaemonDeployments DescribeDaemonRevisions DescribeDaemonTaskDefinition",
      "DescribeExpressGatewayService DescribeServiceDeployments DescribeServiceRevisions",
      "DescribeServices DescribeTaskDefinition DescribeTaskSets DescribeTasks",
      "DiscoverPollEndpoint ExecuteCommand GetTaskProtection ListAccountSettings ListAttributes",
      "ListClusters ListContainerInstances ListDaemonDeployments ListDaemonTaskDefinitions",
      "ListDaemons ListServiceDeployments ListServices ListServicesByNamespace",
      "ListTagsForResource ListTaskDefinitionFamilies ListTaskDefinitions ListTasks",
      "PutAccountSetting PutAccountSettingDefault PutAttributes PutClusterCapacityProviders",
      "RegisterContainerInstance RegisterDaemonTaskDefinition RegisterTaskDefinition RunTask",
      "StartTask StopServiceDeployment StopTask SubmitAttachmentStateChanges",
      "SubmitContainerStateChange SubmitTaskStateChange TagResource UntagResource",
      "UpdateCapacityProvider UpdateCluster UpdateClusterSettings UpdateContainerAgent",
      "UpdateContainerInstancesState UpdateDaemon UpdateExpressGatewayService UpdateService",
      "UpdateServicePrimaryTaskSet UpdateTaskProtection UpdateTaskSet"]),
    ("eks", [
      "AssociateAccessPolicy AssociateEncryptionConfig AssociateIdentityProviderConfig",
      "CreateAccessEntry CreateAddon CreateCapability CreateCluster",
      "CreateEksAnywhereSubscription CreateFargateProfile CreateNodegroup",
      "CreatePodIdentityAssociation DeleteAccessEntry DeleteAddon DeleteCapability",
      "DeleteCluster DeleteEksAnywhereSubscription DeleteFargateProfile DeleteNodegroup",
      "DeletePodIdentityAssociation DeregisterCluster DescribeAccessEntry DescribeAddon",
      "DescribeAddonConfiguration DescribeAddonVersions DescribeCapability DescribeCluster",
      "DescribeClusterVersions DescribeEksAnywhereSubscription DescribeFargateProfile",
      "DescribeIdentityProviderConfig DescribeInsight DescribeInsightsRefresh DescribeNodegroup",
      "DescribePodIdentityAssociation DescribeUpdate DisassociateAccessPolicy",
      "DisassociateIdentityProviderConfig ListAccessEntries ListAccessPolicies ListAddons",
      "ListAssociatedAccessPolicies ListCapabilities ListClusters ListEksAnywhereSubscriptions",
      "ListFargateProfiles ListIdentityProviderConfigs ListInsights ListNodegroups",
      "ListPodIdentityAssociations ListTagsForResource ListUpdates RegisterCluster",
      "StartInsightsRefresh TagResource UntagResource UpdateAccessEntry UpdateAddon",
      "UpdateCapability UpdateClusterConfig UpdateClusterVersion UpdateEksAnywhereSubscription",
      "UpdateNodegroupConfig UpdateNodegroupVersion UpdatePodIdentityAssociation"]),
    ("eks-auth", ["AssumeRoleForPodIdentity"]),
    ("elasticache", [
      "AddTagsToResource AuthorizeCacheSecurityGroupIngress BatchApplyUpdateAction",
      "BatchStopUpdateAction CompleteMigration CopyServerlessCacheSnapshot CopySnapshot",
      "CreateCacheCluster CreateCacheParameterGroup CreateCacheSecurityGroup",
      "CreateCacheSubnetGroup CreateGlobalReplicationGroup CreateReplicationGroup",
      "CreateServerlessCache CreateServerlessCacheSnapshot CreateSnapshot CreateUser",
      "CreateUserGroup DecreaseNodeGroupsInGlobalReplicationGroup DecreaseReplicaCount",
      "DeleteCacheCluster DeleteCacheParameterGroup DeleteCacheSecurityGroup",
      "DeleteCacheSubnetGroup DeleteGlobalReplicationGroup DeleteReplicationGroup",
      "DeleteServerlessCache DeleteServerlessCacheSnapshot DeleteSnapshot DeleteUser",
      "DeleteUserGroup DescribeCacheClusters DescribeCacheEngineVersions",
      "DescribeCacheParameterGroups DescribeCacheParameters DescribeCacheSecurityGroups",
      "DescribeCacheSubnetGroups DescribeEngineDefaultParameters DescribeEvents",
      "DescribeGlobalReplicationGroups DescribeReplicationGroups DescribeReservedCacheNodes",
      "DescribeReservedCacheNodesOfferings DescribeServerlessCacheSnapshots",
      "DescribeServerlessCaches DescribeServiceUpdates DescribeSnapshots DescribeUpdateActions",
      "DescribeUserGroups DescribeUsers DisassociateGlobalReplicationGroup",
      "ExportServerlessCacheSnapshot FailoverGlobalReplicationGroup",
      "IncreaseNodeGroupsInGlobalReplicationGroup IncreaseReplicaCount",
      "ListAllowedNodeTypeModifications ListTagsForResource ModifyCacheCluster",
      "ModifyCacheParameterGroup ModifyCacheSubnetGroup ModifyGlobalReplicationGroup",
      "ModifyReplicationGroup ModifyReplicationGroupShardConfiguration ModifyServerlessCache",
      "ModifyUser ModifyUserGroup PurchaseReservedCacheNodesOffering",
      "RebalanceSlotsInGlobalReplicationGroup RebootCacheCluster RemoveTagsFromResource",
      "ResetCacheParameterGroup RevokeCacheSecurityGroupIngress StartMigration TestFailover",
      "TestMigration"]),
    ("elasticbeanstalk", [
      "AbortEnvironmentUpdate ApplyEnvironmentManagedAction AssociateEnvironmentOperationsRole",
      "CheckDNSAvailability ComposeEnvironments CreateApplication CreateApplicationVersion",
      "CreateConfigurationTemplate CreateEnvironment CreatePlatformVersion",
      "CreateStorageLocation DeleteApplication DeleteApplicationVersion",
      "DeleteConfigurationTemplate DeleteEnvironmentConfiguration DeletePlatformVersion",
      "DescribeAccountAttributes DescribeApplicationVersions DescribeApplications",
      "DescribeConfigurationOptions DescribeConfigurationSettings DescribeEnvironmentHealth",
      "DescribeEnvironmentManagedActionHistory DescribeEnvironmentManagedActions",
      "DescribeEnvironmentResources DescribeEnvironments DescribeEvents DescribeInstancesHealth",
      "DescribePlatformVersion DisassociateEnvironmentOperationsRole",
      "ListAvailableSolutionStacks ListPlatformBranches ListPlatformVersions",
      "ListTagsForResource RebuildEnvironment RequestEnvironmentInfo RestartAppServer",
      "RetrieveEnvironmentInfo SwapEnvironmentCNAMEs TerminateEnvironment UpdateApplication",
      "UpdateApplicationResourceLifecycle UpdateApplicationVersion UpdateConfigurationTemplate",
      "UpdateEnvironment UpdateTagsForResource ValidateConfigurationSettings"]),
    ("elasticfilesystem", [
      "CreateAccessPoint CreateFileSystem CreateMountTarget CreateReplicationConfiguration",
      "CreateTags DeleteAccessPoint DeleteFileSystem DeleteFileSystemPolicy DeleteMountTarget",
      "DeleteReplicationConfiguration DeleteTags DescribeAccessPoints",
      "DescribeAccountPreferences DescribeBackupPolicy DescribeFileSystemPolicy",
      "DescribeFileSystems DescribeLifecycleConfiguration DescribeMountTargetSecurityGroups",
      "DescribeMountTargets DescribeReplicationConfigurations DescribeTags ListTagsForResource",
      "ModifyMountTargetSecurityGroups PutAccountPreferences PutBackupPolicy",
      "PutFileSystemPolicy PutLifecycleConfiguration TagResource UntagResource UpdateFileSystem",
      "UpdateFileSystemProtection"]),
    ("elasticloadbalancing", [
      "AddListenerCertificates AddTags AddTrustStoreRevocations",
      "ApplySecurityGroupsToLoadBalancer AttachLoadBalancerToSubnets ConfigureHealthCheck",
      "CreateAppCookieStickinessPolicy CreateLBCookieStickinessPolicy CreateListener",
      "CreateLoadBalancer CreateLoadBalancerListeners CreateLoadBalancerPolicy CreateRule",
      "CreateTargetGroup CreateTrustStore DeleteListener DeleteLoadBalancer",
      "DeleteLoadBalancerListeners DeleteLoadBalancerPolicy DeleteRule",
      "DeleteSharedTrustStoreAssociation DeleteTargetGroup DeleteTrustStore",
      "DeregisterInstancesFromLoadBalancer DeregisterTargets DescribeAccountLimits",
      "DescribeCapacityReservation DescribeInstanceHealth DescribeListenerAttributes",
      "DescribeListenerCertificates DescribeListeners DescribeLoadBalancerAttributes",
      "DescribeLoadBalancerPolicies DescribeLoadBalancerPolicyTypes DescribeLoadBalancers",
      "DescribeRules DescribeSSLPolicies DescribeTags DescribeTargetGroupAttributes",
      "DescribeTargetGroups DescribeTargetHealth DescribeTrustStoreAssociations",
      "DescribeTrustStoreRevocations DescribeTrustStores DetachLoadBalancerFromSubnets",
      "DisableAvailabilityZonesForLoadBalancer EnableAvailabilityZonesForLoadBalancer",
      "GetResourcePolicy GetTrustStoreCaCertificatesBundle GetTrustStoreRevocationContent",
      "ModifyCapacityReservation ModifyIpPools ModifyListener ModifyListenerAttributes",
      "ModifyLoadBalancerAttributes ModifyRule ModifyTargetGroup ModifyTargetGroupAttributes",
      "ModifyTrustStore RegisterInstancesWithLoadBalancer RegisterTargets",
      "RemoveListenerCertificates RemoveTags RemoveTrustStoreRevocations SetIpAddressType",
      "SetLoadBalancerListenerSSLCertificate SetLoadBalancerPoliciesForBackendServer",
      "SetLoadBalancerPoliciesOfListener SetRulePriorities SetSecurityGroups SetSubnets"]),
    ("elasticmapreduce", [
      "AddInstanceFleet AddInstanceGroups AddJobFlowSteps AddTags CancelSteps",
      "CreatePersistentAppUI CreateSecurityConfiguration CreateStudio",
      "CreateStudioSessionMapping DeleteSecurityConfiguration DeleteStudio",
      "DeleteStudioSessionMapping DescribeCluster DescribeJobFlows DescribeNotebookExecution",
      "DescribePersistentAppUI DescribeReleaseLabel DescribeSecurityConfiguration DescribeStep",
      "DescribeStudio GetAutoTerminationPolicy GetBlockPublicAccessConfiguration",
      "GetClusterSessionCredentials GetManagedScalingPolicy GetOnClusterAppUIPresignedURL",
      "GetPersistentAppUIPresignedURL GetStudioSessionMapping ListBootstrapActions ListClusters",
      "ListInstanceFleets ListInstanceGroups ListInstances ListNotebookExecutions",
      "ListReleaseLabels ListSecurityConfigurations ListSteps ListStudioSessionMappings",
      "ListStudios ListSupportedInstanceTypes ModifyCluster ModifyInstanceFleet",
      "ModifyInstanceGroups PutAutoScalingPolicy PutAutoTerminationPolicy",
      "PutBlockPublicAccessConfiguration PutManagedScalingPolicy RemoveAutoScalingPolicy",
      "RemoveAutoTerminationPolicy RemoveManagedScalingPolicy RemoveTags RunJobFlow",
      "SetKeepJobFlowAliveWhenNoSteps SetTerminationProtection SetUnhealthyNodeReplacement",
      "SetVisibleToAllUsers StartNotebookExecution StopNotebookExecution TerminateJobFlows",
      "UpdateStudio UpdateStudioSessionMapping"]),
    ("elemental-inference", [
      "AssociateFeed CreateFeed DeleteFeed DisassociateFeed GetFeed ListFeeds",
      "ListTagsForResource TagResource UntagResource UpdateFeed"]),
    ("emr-containers", [
      "CancelJobRun CreateJobTemplate CreateManagedEndpoint CreateSecurityConfiguration",
      "CreateVirtualCluster DeleteJobTemplate DeleteManagedEndpoint DeleteVirtualCluster",
      "DescribeJobRun DescribeJobTemplate DescribeManagedEndpoint DescribeSecurityConfiguration",
      "DescribeVirtualCluster GetManagedEndpointSessionCredentials ListJobRuns ListJobTemplates",
      "ListManagedEndpoints ListSecurityConfigurations ListTagsForResource ListVirtualClusters",
      "StartJobRun TagResource UntagResource"]),
    ("emr-serverless", [
      "CancelJobRun CreateApplication DeleteApplication GetApplication GetDashboardForJobRun",
      "GetJobRun GetResourceDashboard GetSession GetSessionEndpoint ListApplications",
      "ListJobRunAttempts ListJobRuns ListSessions ListTagsForResource StartApplication",
      "StartJobRun StartSession StopApplication TagResource TerminateSession UntagResource",
      "UpdateApplication"]),
    ("entityresolution", [
      "AddPolicyStatement BatchDeleteUniqueId CreateIdMappingWorkflow CreateIdNamespace",
      "CreateMatchingWorkflow CreateSchemaMapping DeleteIdMappingWorkflow DeleteIdNamespace",
      "DeleteMatchingWorkflow DeletePolicyStatement DeleteSchemaMapping GenerateMatchId",
      "GetIdMappingJob GetIdMappingWorkflow GetIdNamespace GetMatchId GetMatchingJob",
      "GetMatchingWorkflow GetPolicy GetProviderService GetSchemaMapping ListIdMappingJobs",
      "ListIdMappingWorkflows ListIdNamespaces ListMatchingJobs ListMatchingWorkflows",
      "ListProviderServices ListSchemaMappings ListTagsForResource PutPolicy StartIdMappingJob",
      "StartMatchingJob TagResource UntagResource UpdateIdMappingWorkflow UpdateIdNamespace",
      "UpdateMatchingWorkflow UpdateSchemaMapping"]),
    ("es", [
      "AcceptInboundConnection AcceptInboundCrossClusterSearchConnection AddDataSource",
      "AddDirectQueryDataSource AddTags AssociatePackage AssociatePackages",
      "AuthorizeVpcEndpointAccess CancelDomainConfigChange",
      "CancelElasticsearchServiceSoftwareUpdate CancelServiceSoftwareUpdate CreateApplication",
      "CreateDomain CreateElasticsearchDomain CreateIndex CreateOutboundConnection",
      "CreateOutboundCrossClusterSearchConnection CreatePackage CreateVpcEndpoint",
      "DeleteApplication DeleteDataSource DeleteDirectQueryDataSource DeleteDomain",
      "DeleteElasticsearchDomain DeleteElasticsearchServiceRole DeleteInboundConnection",
      "DeleteInboundCrossClusterSearchConnection DeleteIndex DeleteOutboundConnection",
      "DeleteOutboundCrossClusterSearchConnection DeletePackage DeleteVpcEndpoint",
      "DeregisterCapability DescribeDomain DescribeDomainAutoTunes DescribeDomainChangeProgress",
      "DescribeDomainConfig DescribeDomainHealth DescribeDomainNodes DescribeDomains",
      "DescribeDryRunProgress DescribeElasticsearchDomain DescribeElasticsearchDomainConfig",
      "DescribeElasticsearchDomains DescribeElasticsearchInstanceTypeLimits",
      "DescribeInboundConnections DescribeInboundCrossClusterSearchConnections",
      "DescribeInsightDetails DescribeInstanceTypeLimits DescribeOutboundConnections",
      "DescribeOutboundCrossClusterSearchConnections DescribePackages",
      "DescribeReservedElasticsearchInstanceOfferings DescribeReservedElasticsearchInstances",
      "DescribeReservedInstanceOfferings DescribeReservedInstances DescribeVpcEndpoints",
      "DissociatePackage DissociatePackages GetApplication GetCapability",
      "GetCompatibleElasticsearchVersions GetCompatibleVersions GetDataSource",
      "GetDefaultApplicationSetting GetDirectQueryDataSource GetDomainMaintenanceStatus",
      "GetIndex GetPackageVersionHistory GetUpgradeHistory GetUpgradeStatus ListApplications",
      "ListDataSources ListDirectQueryDataSources ListDomainMaintenances ListDomainNames",
      "ListDomainsForPackage ListElasticsearchInstanceTypes ListElasticsearchVersions",
      "ListInsights ListInstanceTypeDetails ListPackagesForDomain ListScheduledActions ListTags",
      "ListVersions ListVpcEndpointAccess ListVpcEndpoints ListVpcEndpointsForDomain",
      "PurchaseReservedElasticsearchInstanceOffering PurchaseReservedInstanceOffering",
      "PutDefaultApplicationSetting RegisterCapability RejectInboundConnection",
      "RejectInboundCrossClusterSearchConnection RemoveTags RevokeVpcEndpointAccess",
      "RollbackServiceSoftwareUpdate StartDomainMaintenance",
      "StartElasticsearchServiceSoftwareUpdate StartServiceSoftwareUpdate UpdateApplication",
      "UpdateDataSource UpdateDirectQueryDataSource UpdateDomainConfig",
      "UpdateElasticsearchDomainConfig UpdateIndex UpdatePackage UpdatePackageScope",
      "UpdateScheduledAction UpdateVpcEndpoint UpgradeDomain UpgradeElasticsearchDomain"]),
    ("events", [
      "ActivateEventSource CancelReplay CreateApiDestination CreateArchive CreateConnection",
      "CreateEndpoint CreateEventBus CreatePartnerEventSource DeactivateEventSource",
      "DeauthorizeConnection DeleteApiDestination DeleteArchive DeleteConnection DeleteEndpoint",
      "DeleteEventBus DeletePartnerEventSource DeleteRule DescribeApiDestination",
      "DescribeArchive DescribeConnection DescribeEndpoint DescribeEventBus DescribeEventSource",
      "DescribePartnerEventSource DescribeReplay DescribeRule DisableRule EnableRule",
      "ListApiDestinations ListArchives ListConnections ListEndpoints ListEventBuses",
      "ListEventSources ListPartnerEventSourceAccounts ListPartnerEventSources ListReplays",
      "ListRuleNamesByTarget ListRules ListTagsForResource ListTargetsByRule PutEvents",
      "PutPartnerEvents PutPermission PutRule PutTargets RemovePermission RemoveTargets",
      "StartReplay TagResource TestEventPattern UntagResource UpdateApiDestination",
      "UpdateArchive UpdateConnection UpdateEndpoint UpdateEventBus"]),
    ("evs", [
      "AssociateEipToVlan CreateEntitlement CreateEnvironment CreateEnvironmentConnector",
      "CreateEnvironmentHost DeleteEntitlement DeleteEnvironment DeleteEnvironmentConnector",
      "DeleteEnvironmentHost DisassociateEipFromVlan GetEnvironment GetVersions",
      "ListEnvironmentConnectors ListEnvironmentHosts ListEnvironmentVlans ListEnvironments",
      "ListTagsForResource ListVmEntitlements TagResource UntagResource",
      "UpdateEnvironmentConnector"]),
    ("execute-api", [
      "CancelParticipantAuthentication CompleteAttachmentUpload CreateParticipantConnection",
      "DeleteConnection DescribeView DisconnectParticipant GetAttachment GetAuthenticationUrl",
      "GetConnection GetTranscript Invoke ManageConnections PostToConnection SendEvent",
      "SendMessage StartAttachmentUpload"])]

end StackAudit.Catalog
