/-!
# Actions of services: A to B

The privileges of the services whose names begin with `a` to `b`.
-/

namespace StackAudit.Catalog

/-- The services from `a` on, each with lines of privileges between blanks. -/
def servicesAToB : List (String × List String) :=
  [("access-analyzer", [
      "ApplyArchiveRule CancelPolicyGeneration CheckAccessNotGranted CheckNoNewAccess",
      "CheckNoPublicAccess CreateAccessPreview CreateAnalyzer CreateArchiveRule",
      "CreateServiceLinkedAnalyzer DeleteAnalyzer DeleteArchiveRule DeleteServiceLinkedAnalyzer",
      "GenerateFindingRecommendation GetAccessPreview GetAnalyzedResource GetAnalyzer",
      "GetArchiveRule GetFinding GetFindingRecommendation GetFindingV2 GetFindingsStatistics",
      "GetGeneratedPolicy ListAccessPreviewFindings ListAccessPreviews ListAnalyzedResources",
      "ListAnalyzers ListArchiveRules ListFindings ListFindingsV2 ListPolicyGenerations",
      "ListTagsForResource StartPolicyGeneration StartResourceScan TagResource UntagResource",
      "UpdateAnalyzer UpdateArchiveRule UpdateFindings ValidatePolicy"]),
    ("account", [
      "AcceptPrimaryEmailUpdate DeleteAlternateContact DisableRegion EnableRegion",
      "GetAccountInformation GetAlternateContact GetContactInformation",
      "GetGovCloudAccountInformation GetPrimaryEmail GetRegionOptStatus ListRegions",
      "PutAccountName PutAlternateContact PutContactInformation StartPrimaryEmailUpdate"]),
    ("acm", [
      "AddTagsToCertificate DeleteCertificate DescribeCertificate ExportCertificate",
      "GetAccountConfiguration GetCertificate ImportCertificate ListCertificates",
      "ListTagsForCertificate PutAccountConfiguration RemoveTagsFromCertificate",
      "RenewCertificate RequestCertificate ResendValidationEmail RevokeCertificate",
      "SearchCertificates UpdateCertificateOptions"]),
    ("acm-pca", [
      "CreateCertificateAuthority CreateCertificateAuthorityAuditReport CreatePermission",
      "DeleteCertificateAuthority DeletePermission DeletePolicy DescribeCertificateAuthority",
      "DescribeCertificateAuthorityAuditReport GetCertificate",
      "GetCertificateAuthorityCertificate GetCertificateAuthorityCsr GetPolicy",
      "ImportCertificateAuthorityCertificate IssueCertificate ListCertificateAuthorities",
      "ListPermissions ListTags PutPolicy RestoreCertificateAuthority RevokeCertificate",
      "TagCertificateAuthority UntagCertificateAuthority UpdateCertificateAuthority"]),
    ("aco-automation", [
      "AssociateAccounts CreateAutomationRule DeleteAutomationRule DisassociateAccounts",
      "GetAutomationEvent GetAutomationRule GetEnrollmentConfiguration ListAccounts",
      "ListAutomationEventSteps ListAutomationEventSummaries ListAutomationEvents",
      "ListAutomationRulePreview ListAutomationRulePreviewSummaries ListAutomationRules",
      "ListRecommendedActionSummaries ListRecommendedActions ListTagsForResource",
      "RollbackAutomationEvent StartAutomationEvent TagResource UntagResource",
      "UpdateAutomationRule UpdateEnrollmentConfiguration"]),
    ("aidevops", [
      "AssociateService CreateAgentSpace CreateBacklogTask CreateChat CreatePrivateConnection",
      "DeleteAgentSpace DeletePrivateConnection DeregisterService DescribePrivateConnection",
      "DisableOperatorApp DisassociateService EnableOperatorApp GetAccountUsage GetAgentSpace",
      "GetAssociation GetBacklogTask GetOperatorApp GetRecommendation GetService",
      "ListAgentSpaces ListAssociations ListBacklogTasks ListChats ListExecutions ListGoals",
      "ListJournalRecords ListPendingMessages ListPrivateConnections ListRecommendations",
      "ListServices ListTagsForResource ListWebhooks RegisterService SendMessage TagResource",
      "UntagResource UpdateAgentSpace UpdateAssociation UpdateBacklogTask UpdateGoal",
      "UpdateOperatorAppIdpConfig UpdatePrivateConnectionCertificate UpdateRecommendation",
      "ValidateAwsAssociations"]),
    ("aiops", [
      "CreateInvestigationGroup DeleteInvestigationGroup DeleteInvestigationGroupPolicy",
      "GetInvestigationGroup GetInvestigationGroupPolicy ListInvestigationGroups",
      "ListTagsForResource PutInvestigationGroupPolicy TagResource UntagResource",
      "UpdateInvestigationGroup"]),
    ("airflow", [
      "CreateCliToken CreateEnvironment CreateWebLoginToken DeleteEnvironment GetEnvironment",
      "InvokeRestApi ListEnvironments ListTagsForResource PublishMetrics TagResource",
      "UntagResource UpdateEnvironment"]),
    ("airflow-serverless", [
      "CreateWorkflow DeleteWorkflow GetTaskInstance GetWorkflow GetWorkflowRun",
      "ListTagsForResource ListTaskInstances ListWorkflowRuns ListWorkflowVersions",
      "ListWorkflows StartWorkflowRun StopWorkflowRun TagResource UntagResource UpdateWorkflow"]),
    ("amplify", [
      "CreateApp CreateBackendEnvironment CreateBranch CreateDeployment CreateDomainAssociation",
      "CreateWebhook DeleteApp DeleteBackendEnvironment DeleteBranch DeleteDomainAssociation",
      "DeleteJob DeleteWebhook GenerateAccessLogs GetApp GetArtifactUrl GetBackendEnvironment",
      "GetBranch GetDomainAssociation GetJob GetWebhook ListApps ListArtifacts",
      "ListBackendEnvironments ListBranches ListDomainAssociations ListJobs ListTagsForResource",
      "ListWebhooks StartDeployment StartJob StopJob TagResource UntagResource UpdateApp",
      "UpdateBranch UpdateDomainAssociation UpdateWebhook"]),
    ("amplifybackend", [
      "CloneBackend CreateBackend CreateBackendAPI CreateBackendAuth CreateBackendConfig",
      "CreateBackendStorage CreateToken DeleteBackend DeleteBackendAPI DeleteBackendAuth",
      "DeleteBackendStorage DeleteToken GenerateBackendAPIModels GetBackend GetBackendAPI",
      "GetBackendAPIModels GetBackendAuth GetBackendJob GetBackendStorage GetToken",
      "ImportBackendAuth ImportBackendStorage ListBackendJobs ListS3Buckets RemoveAllBackends",
      "RemoveBackendConfig UpdateBackendAPI UpdateBackendAuth UpdateBackendConfig",
      "UpdateBackendJob UpdateBackendStorage"]),
    ("amplifyuibuilder", [
      "CreateComponent CreateForm CreateTheme DeleteComponent DeleteForm DeleteTheme",
      "ExchangeCodeForToken ExportComponents ExportForms ExportThemes GetCodegenJob",
      "GetComponent GetForm GetMetadata GetTheme ListCodegenJobs ListComponents ListForms",
      "ListTagsForResource ListThemes PutMetadataFlag RefreshToken StartCodegenJob TagResource",
      "UntagResource UpdateComponent UpdateForm UpdateTheme"]),
    ("aoss", [
      "BatchGetCollection BatchGetCollectionGroup BatchGetEffectiveLifecyclePolicy",
      "BatchGetLifecyclePolicy BatchGetVpcEndpoint CreateAccessPolicy CreateCollection",
      "CreateCollectionGroup CreateIndex CreateLifecyclePolicy CreateSecurityConfig",
      "CreateSecurityPolicy CreateVpcEndpoint DeleteAccessPolicy DeleteCollection",
      "DeleteCollectionGroup DeleteIndex DeleteLifecyclePolicy DeleteSecurityConfig",
      "DeleteSecurityPolicy DeleteVpcEndpoint GetAccessPolicy GetAccountSettings GetIndex",
      "GetPoliciesStats GetSecurityConfig GetSecurityPolicy ListAccessPolicies",
      "ListCollectionGroups ListCollections ListLifecyclePolicies ListSecurityConfigs",
      "ListSecurityPolicies ListTagsForResource ListVpcEndpoints TagResource UntagResource",
      "UpdateAccessPolicy UpdateAccountSettings UpdateCollection UpdateCollectionGroup",
      "UpdateIndex UpdateLifecyclePolicy UpdateSecurityConfig UpdateSecurityPolicy",
      "UpdateVpcEndpoint"]),
    ("apigateway", [
      "CreateApi CreateApiKey CreateApiMapping CreateAuthorizer CreateBasePathMapping",
      "CreateDeployment CreateDocumentationPart CreateDocumentationVersion CreateDomainName",
      "CreateDomainNameAccessAssociation CreateIntegration CreateIntegrationResponse",
      "CreateModel CreatePortal CreatePortalProduct CreateProductPage",
      "CreateProductRestEndpointPage CreateRequestValidator CreateResource CreateRestApi",
      "CreateRoute CreateRouteResponse CreateRoutingRule CreateStage CreateUsagePlan",
      "CreateUsagePlanKey CreateVpcLink DeleteAccessLogSettings DeleteApi DeleteApiKey",
      "DeleteApiMapping DeleteAuthorizer DeleteBasePathMapping DeleteClientCertificate",
      "DeleteCorsConfiguration DeleteDeployment DeleteDocumentationPart",
      "DeleteDocumentationVersion DeleteDomainName DeleteDomainNameAccessAssociation",
      "DeleteGatewayResponse DeleteIntegration DeleteIntegrationResponse DeleteMethod",
      "DeleteMethodResponse DeleteModel DeletePortal DeletePortalProduct",
      "DeletePortalProductSharingPolicy DeleteProductPage DeleteProductRestEndpointPage",
      "DeleteRequestValidator DeleteResource DeleteRestApi DeleteRoute",
      "DeleteRouteRequestParameter DeleteRouteResponse DeleteRouteSettings DeleteRoutingRule",
      "DeleteStage DeleteUsagePlan DeleteUsagePlanKey DeleteVpcLink DisablePortal ExportApi",
      "FlushStageAuthorizersCache FlushStageCache GenerateClientCertificate GetAccount GetApi",
      "GetApiKey GetApiKeys GetApiMapping GetApiMappings GetApis GetAuthorizer GetAuthorizers",
      "GetBasePathMapping GetBasePathMappings GetClientCertificate GetClientCertificates",
      "GetDeployment GetDeployments GetDocumentationPart GetDocumentationParts",
      "GetDocumentationVersion GetDocumentationVersions GetDomainName",
      "GetDomainNameAccessAssociations GetDomainNames GetExport GetGatewayResponse",
      "GetGatewayResponses GetIntegration GetIntegrationResponse GetIntegrationResponses",
      "GetIntegrations GetMethod GetMethodResponse GetModel GetModelTemplate GetModels",
      "GetPortal GetPortalProduct GetPortalProductSharingPolicy GetProductPage",
      "GetProductRestEndpointPage GetRequestValidator GetRequestValidators GetResource",
      "GetResources GetRestApi GetRestApis GetRoute GetRouteResponse GetRouteResponses",
      "GetRoutes GetRoutingRule GetSdk GetSdkType GetSdkTypes GetStage GetStages GetTags",
      "GetUsage GetUsagePlan GetUsagePlanKey GetUsagePlanKeys GetUsagePlans GetVpcLink",
      "GetVpcLinks ImportApi ImportApiKeys ImportDocumentationParts ImportRestApi",
      "ListPortalProducts ListPortals ListProductPages ListProductRestEndpointPages",
      "ListRoutingRules PreviewPortal PublishPortal PutGatewayResponse PutIntegration",
      "PutIntegrationResponse PutMethod PutMethodResponse PutPortalProductSharingPolicy",
      "PutRestApi PutRoutingRule ReimportApi RejectDomainNameAccessAssociation",
      "ResetAuthorizersCache TagResource TestInvokeAuthorizer TestInvokeMethod UntagResource",
      "UpdateAccount UpdateApi UpdateApiKey UpdateApiMapping UpdateAuthorizer",
      "UpdateBasePathMapping UpdateClientCertificate UpdateDeployment UpdateDocumentationPart",
      "UpdateDocumentationVersion UpdateDomainName UpdateGatewayResponse UpdateIntegration",
      "UpdateIntegrationResponse UpdateMethod UpdateMethodResponse UpdateModel UpdatePortal",
      "UpdatePortalProduct UpdateProductPage UpdateProductRestEndpointPage",
      "UpdateRequestValidator UpdateResource UpdateRestApi UpdateRoute UpdateRouteResponse",
      "UpdateStage UpdateUsage UpdateUsagePlan UpdateVpcLink"]),
    ("app-integrations", [
      "CreateApplication CreateDataIntegration CreateDataIntegrationAssociation",
      "CreateEventIntegration DeleteApplication DeleteDataIntegration DeleteEventIntegration",
      "GetApplication GetDataIntegration GetEventIntegration ListApplicationAssociations",
      "ListApplications ListDataIntegrationAssociations ListDataIntegrations",
      "ListEventIntegrationAssociations ListEventIntegrations ListTagsForResource TagResource",
      "UntagResource UpdateApplication UpdateDataIntegration UpdateDataIntegrationAssociation",
      "UpdateEventIntegration"]),
    ("appconfig", [
      "CreateApplication CreateConfigurationProfile CreateDeploymentStrategy CreateEnvironment",
      "CreateExtension CreateExtensionAssociation CreateHostedConfigurationVersion",
      "DeleteApplication DeleteConfigurationProfile DeleteDeploymentStrategy DeleteEnvironment",
      "DeleteExtension DeleteExtensionAssociation DeleteHostedConfigurationVersion",
      "GetAccountSettings GetApplication GetConfiguration GetConfigurationProfile GetDeployment",
      "GetDeploymentStrategy GetEnvironment GetExtension GetExtensionAssociation",
      "GetHostedConfigurationVersion GetLatestConfiguration ListApplications",
      "ListConfigurationProfiles ListDeploymentStrategies ListDeployments ListEnvironments",
      "ListExtensionAssociations ListExtensions ListHostedConfigurationVersions",
      "ListTagsForResource StartConfigurationSession StartDeployment StopDeployment TagResource",
      "UntagResource UpdateAccountSettings UpdateApplication UpdateConfigurationProfile",
      "UpdateDeploymentStrategy UpdateEnvironment UpdateExtension UpdateExtensionAssociation",
      "ValidateConfiguration"]),
    ("appfabric", [
      "BatchGetUserAccessTasks ConnectAppAuthorization CreateAppAuthorization CreateAppBundle",
      "CreateIngestion CreateIngestionDestination DeleteAppAuthorization DeleteAppBundle",
      "DeleteIngestion DeleteIngestionDestination GetAppAuthorization GetAppBundle GetIngestion",
      "GetIngestionDestination ListAppAuthorizations ListAppBundles ListIngestionDestinations",
      "ListIngestions ListTagsForResource StartIngestion StartUserAccessTasks StopIngestion",
      "TagResource UntagResource UpdateAppAuthorization UpdateIngestionDestination"]),
    ("appflow", [
      "CancelFlowExecutions CreateConnectorProfile CreateFlow DeleteConnectorProfile DeleteFlow",
      "DescribeConnector DescribeConnectorEntity DescribeConnectorProfiles DescribeConnectors",
      "DescribeFlow DescribeFlowExecutionRecords ListConnectorEntities ListConnectors ListFlows",
      "ListTagsForResource RegisterConnector ResetConnectorMetadataCache StartFlow StopFlow",
      "TagResource UnregisterConnector UntagResource UpdateConnectorProfile",
      "UpdateConnectorRegistration UpdateFlow"]),
    ("application-autoscaling", [
      "DeleteScalingPolicy DeleteScheduledAction DeregisterScalableTarget",
      "DescribeScalableTargets DescribeScalingActivities DescribeScalingPolicies",
      "DescribeScheduledActions GetPredictiveScalingForecast ListTagsForResource",
      "PutScalingPolicy PutScheduledAction RegisterScalableTarget TagResource UntagResource"]),
    ("application-cost-profiler", [
      "DeleteReportDefinition GetReportDefinition ImportApplicationUsage ListReportDefinitions",
      "PutReportDefinition UpdateReportDefinition"]),
    ("application-signals", [
      "BatchGetServiceLevelObjectiveBudgetReport BatchUpdateExclusionWindows",
      "CreateServiceLevelObjective DeleteGroupingConfiguration DeleteServiceLevelObjective",
      "GetService GetServiceLevelObjective ListAuditFindings ListEntityEvents",
      "ListGroupingAttributeDefinitions ListServiceDependencies ListServiceDependents",
      "ListServiceLevelObjectiveExclusionWindows ListServiceLevelObjectives",
      "ListServiceOperations ListServiceStates ListServices ListTagsForResource",
      "PutGroupingConfiguration StartDiscovery TagResource UntagResource",
      "UpdateServiceLevelObjective"]),
    ("applicationinsights", [
      "AddWorkload CreateApplication CreateComponent CreateLogPattern DeleteApplication",
      "DeleteComponent DeleteLogPattern DescribeApplication DescribeComponent",
      "DescribeComponentConfiguration DescribeComponentConfigurationRecommendation",
      "DescribeLogPattern DescribeObservation DescribeProblem DescribeProblemObservations",
      "DescribeWorkload ListApplications ListComponents ListConfigurationHistory",
      "ListLogPatternSets ListLogPatterns ListProblems ListTagsForResource ListWorkloads",
      "RemoveWorkload TagResource UntagResource UpdateApplication UpdateComponent",
      "UpdateComponentConfiguration UpdateLogPattern UpdateProblem UpdateWorkload"]),
    ("appmesh", [
      "CreateGatewayRoute CreateMesh CreateRoute CreateVirtualGateway CreateVirtualNode",
      "CreateVirtualRouter CreateVirtualService DeleteGatewayRoute DeleteMesh DeleteRoute",
      "DeleteVirtualGateway DeleteVirtualNode DeleteVirtualRouter DeleteVirtualService",
      "DescribeGatewayRoute DescribeMesh DescribeRoute DescribeVirtualGateway",
      "DescribeVirtualNode DescribeVirtualRouter DescribeVirtualService ListGatewayRoutes",
      "ListMeshes ListRoutes ListTagsForResource ListVirtualGateways ListVirtualNodes",
      "ListVirtualRouters ListVirtualServices TagResource UntagResource UpdateGatewayRoute",
      "UpdateMesh UpdateRoute UpdateVirtualGateway UpdateVirtualNode UpdateVirtualRouter",
      "UpdateVirtualService"]),
    ("apprunner", [
      "AssociateCustomDomain CreateAutoScalingConfiguration CreateConnection",
      "CreateObservabilityConfiguration CreateService CreateVpcConnector",
      "CreateVpcIngressConnection DeleteAutoScalingConfiguration DeleteConnection",
      "DeleteObservabilityConfiguration DeleteService DeleteVpcConnector",
      "DeleteVpcIngressConnection DescribeAutoScalingConfiguration DescribeCustomDomains",
      "DescribeObservabilityConfiguration DescribeService DescribeVpcConnector",
      "DescribeVpcIngressConnection DisassociateCustomDomain ListAutoScalingConfigurations",
      "ListConnections ListObservabilityConfigurations ListOperations ListServices",
      "ListServicesForAutoScalingConfiguration ListTagsForResource ListVpcConnectors",
      "ListVpcIngressConnections PauseService ResumeService StartDeployment TagResource",
      "UntagResource UpdateDefaultAutoScalingConfiguration UpdateService",
      "UpdateVpcIngressConnection"]),
    ("appstream", [
      "AssociateAppBlockBuilderAppBlock AssociateApplicationFleet",
      "AssociateApplicationToEntitlement AssociateFleet AssociateSoftwareToImageBuilder",
      "BatchAssociateUserStack BatchDisassociateUserStack CopyImage CreateAppBlock",
      "CreateAppBlockBuilder CreateAppBlockBuilderStreamingURL CreateApplication",
      "CreateDirectoryConfig CreateEntitlement CreateExportImageTask CreateFleet",
      "CreateImageBuilder CreateImageBuilderStreamingURL CreateImportedImage CreateStack",
      "CreateStreamingURL CreateThemeForStack CreateUpdatedImage CreateUsageReportSubscription",
      "CreateUser DeleteAppBlock DeleteAppBlockBuilder DeleteApplication DeleteDirectoryConfig",
      "DeleteEntitlement DeleteFleet DeleteImage DeleteImageBuilder DeleteImagePermissions",
      "DeleteStack DeleteThemeForStack DeleteUsageReportSubscription DeleteUser",
      "DescribeAppBlockBuilderAppBlockAssociations DescribeAppBlockBuilders DescribeAppBlocks",
      "DescribeAppLicenseUsage DescribeApplicationFleetAssociations DescribeApplications",
      "DescribeDirectoryConfigs DescribeEntitlements DescribeFleets DescribeImageBuilders",
      "DescribeImagePermissions DescribeImages DescribeSessions DescribeSoftwareAssociations",
      "DescribeStacks DescribeThemeForStack DescribeUsageReportSubscriptions",
      "DescribeUserStackAssociations DescribeUsers DisableUser",
      "DisassociateAppBlockBuilderAppBlock DisassociateApplicationFleet",
      "DisassociateApplicationFromEntitlement DisassociateFleet",
      "DisassociateSoftwareFromImageBuilder DrainSessionInstance EnableUser ExpireSession",
      "GetExportImageTask ListAssociatedFleets ListAssociatedStacks ListEntitledApplications",
      "ListExportImageTasks ListTagsForResource StartAppBlockBuilder StartFleet",
      "StartImageBuilder StartSoftwareDeploymentToImageBuilder StopAppBlockBuilder StopFleet",
      "StopImageBuilder TagResource UntagResource UpdateAppBlockBuilder UpdateApplication",
      "UpdateDirectoryConfig UpdateEntitlement UpdateFleet UpdateImagePermissions UpdateStack",
      "UpdateThemeForStack"]),
    ("appsync", [
      "AssociateApi AssociateMergedGraphqlApi AssociateSourceGraphqlApi CreateApi",
      "CreateApiCache CreateApiKey CreateChannelNamespace CreateDataSource CreateDomainName",
      "CreateFunction CreateGraphqlApi CreateResolver CreateType DeleteApi DeleteApiCache",
      "DeleteApiKey DeleteChannelNamespace DeleteDataSource DeleteDomainName DeleteFunction",
      "DeleteGraphqlApi DeleteResolver DeleteType DisassociateApi DisassociateMergedGraphqlApi",
      "DisassociateSourceGraphqlApi EvaluateCode EvaluateMappingTemplate FlushApiCache GetApi",
      "GetApiAssociation GetApiCache GetChannelNamespace GetDataSource",
      "GetDataSourceIntrospection GetDomainName GetFunction GetGraphqlApi",
      "GetGraphqlApiEnvironmentVariables GetIntrospectionSchema GetResolver",
      "GetSchemaCreationStatus GetSourceApiAssociation GetType ListApiKeys ListApis",
      "ListChannelNamespaces ListDataSources ListDomainNames ListFunctions ListGraphqlApis",
      "ListResolvers ListResolversByFunction ListSourceApiAssociations ListTagsForResource",
      "ListTypes ListTypesByAssociation PutGraphqlApiEnvironmentVariables",
      "StartDataSourceIntrospection StartSchemaCreation StartSchemaMerge TagResource",
      "UntagResource UpdateApi UpdateApiCache UpdateApiKey UpdateChannelNamespace",
      "UpdateDataSource UpdateDomainName UpdateFunction UpdateGraphqlApi UpdateResolver",
      "UpdateSourceApiAssociation UpdateType"]),
    ("aps", [
      "CreateAlertManagerDefinition CreateAnomalyDetector CreateLoggingConfiguration",
      "CreateQueryLoggingConfiguration CreateRuleGroupsNamespace CreateScraper CreateWorkspace",
      "DeleteAlertManagerDefinition DeleteAnomalyDetector DeleteLoggingConfiguration",
      "DeleteQueryLoggingConfiguration DeleteResourcePolicy DeleteRuleGroupsNamespace",
      "DeleteScraper DeleteScraperLoggingConfiguration DeleteWorkspace",
      "DescribeAlertManagerDefinition DescribeAnomalyDetector DescribeLoggingConfiguration",
      "DescribeQueryLoggingConfiguration DescribeResourcePolicy DescribeRuleGroupsNamespace",
      "DescribeScraper DescribeScraperLoggingConfiguration DescribeWorkspace",
      "DescribeWorkspaceConfiguration GetDefaultScraperConfiguration ListAnomalyDetectors",
      "ListRuleGroupsNamespaces ListScrapers ListTagsForResource ListWorkspaces",
      "PutAlertManagerDefinition PutAnomalyDetector PutResourcePolicy PutRuleGroupsNamespace",
      "TagResource UntagResource UpdateLoggingConfiguration UpdateQueryLoggingConfiguration",
      "UpdateScraper UpdateScraperLoggingConfiguration UpdateWorkspaceAlias",
      "UpdateWorkspaceConfiguration"]),
    ("arc-region-switch", [
      "ApprovePlanExecutionStep CancelPlanExecution CreatePlan DeletePlan GetPlan",
      "GetPlanEvaluationStatus GetPlanExecution GetPlanInRegion ListPlanExecutionEvents",
      "ListPlanExecutions ListPlans ListPlansInRegion ListRoute53HealthChecks",
      "ListRoute53HealthChecksInRegion ListTagsForResource StartPlanExecution TagResource",
      "UntagResource UpdatePlan UpdatePlanExecution UpdatePlanExecutionStep"]),
    ("arc-zonal-shift", [
      "CancelPracticeRun CancelZonalShift CreatePracticeRunConfiguration",
      "DeletePracticeRunConfiguration GetAutoshiftObserverNotificationStatus GetManagedResource",
      "ListAutoshifts ListManagedResources ListZonalShifts StartPracticeRun StartZonalShift",
      "UpdateAutoshiftObserverNotificationStatus UpdatePracticeRunConfiguration",
      "UpdateZonalAutoshiftConfiguration UpdateZonalShift"]),
    ("artifact", [
      "GetAccountSettings GetReport GetReportMetadata GetTermForReport ListCustomerAgreements",
      "ListReportVersions ListReports PutAccountSettings"]),
    ("athena", [
      "BatchGetNamedQuery BatchGetPreparedStatement BatchGetQueryExecution",
      "CancelCapacityReservation CreateCapacityReservation CreateDataCatalog CreateNamedQuery",
      "CreateNotebook CreatePreparedStatement CreatePresignedNotebookUrl CreateWorkGroup",
      "DeleteCapacityReservation DeleteDataCatalog DeleteNamedQuery DeleteNotebook",
      "DeletePreparedStatement DeleteWorkGroup ExportNotebook GetCalculationExecution",
      "GetCalculationExecutionCode GetCalculationExecutionStatus",
      "GetCapacityAssignmentConfiguration GetCapacityReservation GetDataCatalog GetDatabase",
      "GetNamedQuery GetNotebookMetadata GetPreparedStatement GetQueryExecution GetQueryResults",
      "GetQueryRuntimeStatistics GetResourceDashboard GetSession GetSessionEndpoint",
      "GetSessionStatus GetTableMetadata GetWorkGroup ImportNotebook ListApplicationDPUSizes",
      "ListCalculationExecutions ListCapacityReservations ListDataCatalogs ListDatabases",
      "ListEngineVersions ListExecutors ListNamedQueries ListNotebookMetadata",
      "ListNotebookSessions ListPreparedStatements ListQueryExecutions ListSessions",
      "ListTableMetadata ListTagsForResource ListWorkGroups PutCapacityAssignmentConfiguration",
      "StartCalculationExecution StartQueryExecution StartSession StopCalculationExecution",
      "StopQueryExecution TagResource TerminateSession UntagResource UpdateCapacityReservation",
      "UpdateDataCatalog UpdateNamedQuery UpdateNotebook UpdateNotebookMetadata",
      "UpdatePreparedStatement UpdateWorkGroup"]),
    ("auditmanager", [
      "AssociateAssessmentReportEvidenceFolder BatchAssociateAssessmentReportEvidence",
      "BatchCreateDelegationByAssessment BatchDeleteDelegationByAssessment",
      "BatchDisassociateAssessmentReportEvidence BatchImportEvidenceToAssessmentControl",
      "CreateAssessment CreateAssessmentFramework CreateAssessmentReport CreateControl",
      "DeleteAssessment DeleteAssessmentFramework DeleteAssessmentFrameworkShare",
      "DeleteAssessmentReport DeleteControl DeregisterAccount",
      "DeregisterOrganizationAdminAccount DisassociateAssessmentReportEvidenceFolder",
      "GetAccountStatus GetAssessment GetAssessmentFramework GetAssessmentReportUrl",
      "GetChangeLogs GetControl GetDelegations GetEvidence GetEvidenceByEvidenceFolder",
      "GetEvidenceFileUploadUrl GetEvidenceFolder GetEvidenceFoldersByAssessment",
      "GetEvidenceFoldersByAssessmentControl GetInsights GetInsightsByAssessment",
      "GetOrganizationAdminAccount GetServicesInScope GetSettings",
      "ListAssessmentControlInsightsByControlDomain ListAssessmentFrameworkShareRequests",
      "ListAssessmentFrameworks ListAssessmentReports ListAssessments ListControlDomainInsights",
      "ListControlDomainInsightsByAssessment ListControlInsightsByControlDomain ListControls",
      "ListKeywordsForDataSource ListNotifications ListTagsForResource RegisterAccount",
      "RegisterOrganizationAdminAccount StartAssessmentFrameworkShare TagResource UntagResource",
      "UpdateAssessment UpdateAssessmentControl UpdateAssessmentControlSetStatus",
      "UpdateAssessmentFramework UpdateAssessmentFrameworkShare UpdateAssessmentStatus",
      "UpdateControl UpdateSettings ValidateAssessmentReportIntegrity"]),
    ("autoscaling", [
      "AttachInstances AttachLoadBalancerTargetGroups AttachLoadBalancers AttachTrafficSources",
      "BatchDeleteScheduledAction BatchPutScheduledUpdateGroupAction CancelInstanceRefresh",
      "CompleteLifecycleAction CreateAutoScalingGroup CreateLaunchConfiguration",
      "CreateOrUpdateTags DeleteAutoScalingGroup DeleteLaunchConfiguration DeleteLifecycleHook",
      "DeleteNotificationConfiguration DeletePolicy DeleteScheduledAction DeleteTags",
      "DeleteWarmPool DescribeAccountLimits DescribeAdjustmentTypes DescribeAutoScalingGroups",
      "DescribeAutoScalingInstances DescribeAutoScalingNotificationTypes",
      "DescribeInstanceRefreshes DescribeLaunchConfigurations DescribeLifecycleHookTypes",
      "DescribeLifecycleHooks DescribeLoadBalancerTargetGroups DescribeLoadBalancers",
      "DescribeMetricCollectionTypes DescribeNotificationConfigurations DescribePolicies",
      "DescribeScalingActivities DescribeScalingProcessTypes DescribeScheduledActions",
      "DescribeTags DescribeTerminationPolicyTypes DescribeTrafficSources DescribeWarmPool",
      "DetachInstances DetachLoadBalancerTargetGroups DetachLoadBalancers DetachTrafficSources",
      "DisableMetricsCollection EnableMetricsCollection EnterStandby ExecutePolicy ExitStandby",
      "GetPredictiveScalingForecast LaunchInstances PutLifecycleHook",
      "PutNotificationConfiguration PutScalingPolicy PutScheduledUpdateGroupAction PutWarmPool",
      "RecordLifecycleActionHeartbeat ResumeProcesses RollbackInstanceRefresh",
      "SetDesiredCapacity SetInstanceHealth SetInstanceProtection StartInstanceRefresh",
      "SuspendProcesses TerminateInstanceInAutoScalingGroup UpdateAutoScalingGroup"]),
    ("autoscaling-plans", [
      "CreateScalingPlan DeleteScalingPlan DescribeScalingPlanResources DescribeScalingPlans",
      "GetScalingPlanResourceForecastData UpdateScalingPlan"]),
    ("aws-marketplace", [
      "AcceptAgreementCancellationRequest AcceptAgreementPaymentRequest AcceptAgreementRequest",
      "BatchCreateBillingAdjustmentRequest BatchDescribeEntities BatchMeterUsage",
      "CancelAgreement CancelAgreementCancellationRequest CancelAgreementPaymentRequest",
      "CancelChangeSet CreateAgreementRequest DeleteResourcePolicy DescribeAgreement",
      "DescribeChangeSet DescribeEntity GetAgreementCancellationRequest",
      "GetAgreementEntitlements GetAgreementPaymentRequest GetAgreementTerms",
      "GetBillingAdjustmentRequest GetBuyerDashboard GetEntitlements GetListing GetOffer",
      "GetOfferSet GetOfferTerms GetProduct GetResourcePolicy ListAgreementCancellationRequests",
      "ListAgreementCharges ListAgreementInvoiceLineItems ListAgreementPaymentRequests",
      "ListBillingAdjustmentRequests ListChangeSets ListEntities ListFulfillmentOptions",
      "ListPurchaseOptions ListTagsForResource MeterUsage PutDeploymentParameter",
      "PutResourcePolicy RegisterUsage RejectAgreementCancellationRequest",
      "RejectAgreementPaymentRequest ResolveCustomer SearchAgreements SearchFacets",
      "SearchListings SendAgreementCancellationRequest SendAgreementPaymentRequest",
      "StartChangeSet TagResource UntagResource UpdatePurchaseOrders"]),
    ("b2bi", [
      "CreateCapability CreatePartnership CreateProfile CreateStarterMappingTemplate",
      "CreateTransformer DeleteCapability DeletePartnership DeleteProfile DeleteTransformer",
      "GenerateMapping GetCapability GetPartnership GetProfile GetTransformer GetTransformerJob",
      "ListCapabilities ListPartnerships ListProfiles ListTagsForResource ListTransformers",
      "StartTransformerJob TagResource TestConversion TestMapping TestParsing UntagResource",
      "UpdateCapability UpdatePartnership UpdateProfile UpdateTransformer"]),
    ("backup", [
      "AssociateBackupVaultMpaApprovalTeam CancelLegalHold CreateBackupPlan",
      "CreateBackupSelection CreateBackupVault CreateFramework CreateLegalHold",
      "CreateLogicallyAirGappedBackupVault CreateReportPlan CreateRestoreAccessBackupVault",
      "CreateRestoreTestingPlan CreateRestoreTestingSelection CreateTieringConfiguration",
      "DeleteBackupPlan DeleteBackupSelection DeleteBackupVault DeleteBackupVaultAccessPolicy",
      "DeleteBackupVaultLockConfiguration DeleteBackupVaultNotifications DeleteFramework",
      "DeleteRecoveryPoint DeleteReportPlan DeleteRestoreTestingPlan",
      "DeleteRestoreTestingSelection DeleteTieringConfiguration DescribeBackupJob",
      "DescribeBackupVault DescribeCopyJob DescribeFramework DescribeGlobalSettings",
      "DescribeProtectedResource DescribeRecoveryPoint DescribeRegionSettings DescribeReportJob",
      "DescribeReportPlan DescribeRestoreJob DescribeScanJob",
      "DisassociateBackupVaultMpaApprovalTeam DisassociateRecoveryPoint",
      "DisassociateRecoveryPointFromParent ExportBackupPlanTemplate GetBackupPlan",
      "GetBackupPlanFromJSON GetBackupPlanFromTemplate GetBackupSelection",
      "GetBackupVaultAccessPolicy GetBackupVaultNotifications GetLegalHold",
      "GetRecoveryPointIndexDetails GetRecoveryPointRestoreMetadata GetRestoreJobMetadata",
      "GetRestoreTestingInferredMetadata GetRestoreTestingPlan GetRestoreTestingSelection",
      "GetSupportedResourceTypes GetTieringConfiguration ListBackupJobSummaries ListBackupJobs",
      "ListBackupPlanTemplates ListBackupPlanVersions ListBackupPlans ListBackupSelections",
      "ListBackupVaults ListCopyJobSummaries ListCopyJobs ListFrameworks",
      "ListIndexedRecoveryPoints ListLegalHolds ListProtectedResources",
      "ListProtectedResourcesByBackupVault ListRecoveryPointsByBackupVault",
      "ListRecoveryPointsByLegalHold ListRecoveryPointsByResource ListReportJobs",
      "ListReportPlans ListRestoreAccessBackupVaults ListRestoreJobSummaries ListRestoreJobs",
      "ListRestoreJobsByProtectedResource ListRestoreTestingPlans ListRestoreTestingSelections",
      "ListScanJobSummaries ListScanJobs ListTags ListTieringConfigurations",
      "PutBackupVaultAccessPolicy PutBackupVaultLockConfiguration PutBackupVaultNotifications",
      "PutRestoreValidationResult RevokeRestoreAccessBackupVault StartBackupJob StartCopyJob",
      "StartReportJob StartRestoreJob StartScanJob StopBackupJob TagResource UntagResource",
      "UpdateBackupPlan UpdateFramework UpdateGlobalSettings UpdateRecoveryPointIndexSettings",
      "UpdateRecoveryPointLifecycle UpdateRegionSettings UpdateReportPlan",
      "UpdateRestoreTestingPlan UpdateRestoreTestingSelection UpdateTieringConfiguration"]),
    ("backup-gateway", [
      "AssociateGatewayToServer CreateGateway DeleteGateway DeleteHypervisor",
      "DisassociateGatewayFromServer GetBandwidthRateLimitSchedule GetGateway GetHypervisor",
      "GetHypervisorPropertyMappings GetVirtualMachine ImportHypervisorConfiguration",
      "ListGateways ListHypervisors ListTagsForResource ListVirtualMachines",
      "PutBandwidthRateLimitSchedule PutHypervisorPropertyMappings PutMaintenanceStartTime",
      "StartVirtualMachinesMetadataSync TagResource TestHypervisorConfiguration UntagResource",
      "UpdateGatewayInformation UpdateGatewaySoftwareNow UpdateHypervisor"]),
    ("backup-search", [
      "GetSearchJob GetSearchResultExportJob ListSearchJobBackups ListSearchJobResults",
      "ListSearchJobs ListSearchResultExportJobs ListTagsForResource StartSearchJob",
      "StartSearchResultExportJob StopSearchJob TagResource UntagResource"]),
    ("batch", [
      "CancelJob CreateComputeEnvironment CreateConsumableResource CreateJobQueue",
      "CreateQuotaShare CreateSchedulingPolicy CreateServiceEnvironment",
      "DeleteComputeEnvironment DeleteConsumableResource DeleteJobQueue DeleteQuotaShare",
      "DeleteSchedulingPolicy DeleteServiceEnvironment DeregisterJobDefinition",
      "DescribeComputeEnvironments DescribeConsumableResource DescribeJobDefinitions",
      "DescribeJobQueues DescribeJobs DescribeQuotaShare DescribeSchedulingPolicies",
      "DescribeServiceEnvironments DescribeServiceJob GetJobQueueSnapshot",
      "ListConsumableResources ListJobs ListJobsByConsumableResource ListQuotaShares",
      "ListSchedulingPolicies ListServiceJobs ListTagsForResource RegisterJobDefinition",
      "SubmitJob SubmitServiceJob TagResource TerminateJob TerminateServiceJob UntagResource",
      "UpdateComputeEnvironment UpdateConsumableResource UpdateJobQueue UpdateQuotaShare",
      "UpdateSchedulingPolicy UpdateServiceEnvironment UpdateServiceJob"]),
    ("bcm-dashboards", [
      "CreateDashboard CreateScheduledReport DeleteDashboard DeleteScheduledReport",
      "ExecuteScheduledReport GetDashboard GetResourcePolicy GetScheduledReport ListDashboards",
      "ListScheduledReports ListTagsForResource TagResource UntagResource UpdateDashboard",
      "UpdateScheduledReport"]),
    ("bcm-data-exports", [
      "CreateExport DeleteExport GetExecution GetExport GetTable ListExecutions ListExports",
      "ListTables ListTagsForResource TagResource UntagResource UpdateExport"]),
    ("bcm-pricing-calculator", [
      "BatchCreateBillScenarioCommitmentModification BatchCreateBillScenarioUsageModification",
      "BatchCreateWorkloadEstimateUsage BatchDeleteBillScenarioCommitmentModification",
      "BatchDeleteBillScenarioUsageModification BatchDeleteWorkloadEstimateUsage",
      "BatchUpdateBillScenarioCommitmentModification BatchUpdateBillScenarioUsageModification",
      "BatchUpdateWorkloadEstimateUsage CreateBillEstimate CreateBillScenario",
      "CreateWorkloadEstimate DeleteBillEstimate DeleteBillScenario DeleteWorkloadEstimate",
      "GetBillEstimate GetBillScenario GetPreferences GetWorkloadEstimate",
      "ListBillEstimateCommitments ListBillEstimateInputCommitmentModifications",
      "ListBillEstimateInputUsageModifications ListBillEstimateLineItems ListBillEstimates",
      "ListBillScenarioCommitmentModifications ListBillScenarioUsageModifications",
      "ListBillScenarios ListTagsForResource ListWorkloadEstimateUsage ListWorkloadEstimates",
      "TagResource UntagResource UpdateBillEstimate UpdateBillScenario UpdatePreferences",
      "UpdateWorkloadEstimate"]),
    ("bcm-recommended-actions", ["ListRecommendedActions"]),
    ("bedrock", [
      "ApplyGuardrail AssociateAgentCollaborator AssociateAgentKnowledgeBase",
      "BatchDeleteAdvancedPromptOptimizationJob BatchDeleteEvaluationJob",
      "CancelAutomatedReasoningPolicyBuildWorkflow Converse ConverseStream CopyBlueprintStage",
      "CountTokens CreateAdvancedPromptOptimizationJob CreateAgent CreateAgentActionGroup",
      "CreateAgentAlias CreateAutomatedReasoningPolicy CreateAutomatedReasoningPolicyTestCase",
      "CreateAutomatedReasoningPolicyVersion CreateBlueprint CreateBlueprintVersion",
      "CreateCustomModel CreateCustomModelDeployment CreateDataAutomationLibrary",
      "CreateDataAutomationProject CreateDataSource CreateEvaluationJob CreateFlow",
      "CreateFlowAlias CreateFlowVersion CreateFoundationModelAgreement CreateGuardrail",
      "CreateGuardrailVersion CreateInferenceProfile CreateInvocation CreateKnowledgeBase",
      "CreateMarketplaceModelEndpoint CreateModelCopyJob CreateModelCustomizationJob",
      "CreateModelImportJob CreateModelInvocationJob CreatePrompt CreatePromptRouter",
      "CreatePromptVersion CreateProvisionedModelThroughput CreateSession DeleteAgent",
      "DeleteAgentActionGroup DeleteAgentAlias DeleteAgentMemory DeleteAgentVersion",
      "DeleteAutomatedReasoningPolicy DeleteAutomatedReasoningPolicyBuildWorkflow",
      "DeleteAutomatedReasoningPolicyTestCase DeleteBlueprint DeleteCustomModel",
      "DeleteCustomModelDeployment DeleteDataAutomationLibrary DeleteDataAutomationProject",
      "DeleteDataSource DeleteEnforcedGuardrailConfiguration DeleteFlow DeleteFlowAlias",
      "DeleteFlowVersion DeleteFoundationModelAgreement DeleteGuardrail DeleteImportedModel",
      "DeleteInferenceProfile DeleteKnowledgeBase DeleteKnowledgeBaseDocuments",
      "DeleteMarketplaceModelEndpoint DeleteModelInvocationLoggingConfiguration DeletePrompt",
      "DeletePromptRouter DeleteProvisionedModelThroughput DeleteResourcePolicy DeleteSession",
      "DeregisterMarketplaceModelEndpoint DisassociateAgentCollaborator",
      "DisassociateAgentKnowledgeBase EndSession ExportAutomatedReasoningPolicyVersion",
      "GenerateQuery GetAdvancedPromptOptimizationJob GetAgent GetAgentActionGroup",
      "GetAgentAlias GetAgentCollaborator GetAgentKnowledgeBase GetAgentMemory GetAgentVersion",
      "GetAsyncInvoke GetAutomatedReasoningPolicy GetAutomatedReasoningPolicyAnnotations",
      "GetAutomatedReasoningPolicyBuildWorkflow",
      "GetAutomatedReasoningPolicyBuildWorkflowResultAssets",
      "GetAutomatedReasoningPolicyNextScenario GetAutomatedReasoningPolicyTestCase",
      "GetAutomatedReasoningPolicyTestResult GetBlueprint GetBlueprintOptimizationStatus",
      "GetCustomModel GetCustomModelDeployment GetDataAutomationLibrary",
      "GetDataAutomationLibraryEntity GetDataAutomationLibraryIngestionJob",
      "GetDataAutomationProject GetDataAutomationStatus GetDataSource GetEvaluationJob",
      "GetExecutionFlowSnapshot GetFlow GetFlowAlias GetFlowExecution GetFlowVersion",
      "GetFoundationModel GetFoundationModelAvailability GetGuardrail GetImportedModel",
      "GetInferenceProfile GetIngestionJob GetInvocationStep GetKnowledgeBase",
      "GetKnowledgeBaseDocuments GetMarketplaceModelEndpoint GetModelCopyJob",
      "GetModelCustomizationJob GetModelImportJob GetModelInvocationJob",
      "GetModelInvocationLoggingConfiguration GetPrompt GetPromptRouter",
      "GetProvisionedModelThroughput GetResourcePolicy GetSession GetUseCaseForModelAccess",
      "IngestKnowledgeBaseDocuments InvokeAgent InvokeBlueprintOptimizationAsync",
      "InvokeDataAutomation InvokeDataAutomationAsync InvokeDataAutomationLibraryIngestionJob",
      "InvokeFlow InvokeInlineAgent InvokeModel InvokeModelWithBidirectionalStream",
      "InvokeModelWithResponseStream ListAdvancedPromptOptimizationJobs ListAgentActionGroups",
      "ListAgentAliases ListAgentCollaborators ListAgentKnowledgeBases ListAgentVersions",
      "ListAgents ListAsyncInvokes ListAutomatedReasoningPolicies",
      "ListAutomatedReasoningPolicyBuildWorkflows ListAutomatedReasoningPolicyTestCases",
      "ListAutomatedReasoningPolicyTestResults ListBlueprints ListCustomModelDeployments",
      "ListCustomModels ListDataAutomationLibraries ListDataAutomationLibraryEntities",
      "ListDataAutomationLibraryIngestionJobs ListDataAutomationProjects ListDataSources",
      "ListEnforcedGuardrailsConfiguration ListEvaluationJobs ListFlowAliases",
      "ListFlowExecutionEvents ListFlowExecutions ListFlowVersions ListFlows",
      "ListFoundationModelAgreementOffers ListFoundationModels ListGuardrails",
      "ListImportedModels ListInferenceProfiles ListIngestionJobs ListInvocationSteps",
      "ListInvocations ListKnowledgeBaseDocuments ListKnowledgeBases",
      "ListMarketplaceModelEndpoints ListModelCopyJobs ListModelCustomizationJobs",
      "ListModelImportJobs ListModelInvocationJobs ListPromptRouters ListPrompts",
      "ListProvisionedModelThroughputs ListSessions ListTagsForResource OptimizePrompt",
      "PrepareAgent PrepareFlow PutEnforcedGuardrailConfiguration PutInvocationStep",
      "PutModelInvocationLoggingConfiguration PutResourcePolicy PutUseCaseForModelAccess",
      "RegisterMarketplaceModelEndpoint Rerank Retrieve RetrieveAndGenerate",
      "RetrieveAndGenerateStream StartAsyncInvoke StartAutomatedReasoningPolicyBuildWorkflow",
      "StartAutomatedReasoningPolicyTestWorkflow StartFlowExecution StartIngestionJob",
      "StopAdvancedPromptOptimizationJob StopEvaluationJob StopFlowExecution StopIngestionJob",
      "StopModelCustomizationJob StopModelInvocationJob TagResource UntagResource UpdateAgent",
      "UpdateAgentActionGroup UpdateAgentAlias UpdateAgentCollaborator UpdateAgentKnowledgeBase",
      "UpdateAutomatedReasoningPolicy UpdateAutomatedReasoningPolicyAnnotations",
      "UpdateAutomatedReasoningPolicyTestCase UpdateBlueprint UpdateCustomModelDeployment",
      "UpdateDataAutomationLibrary UpdateDataAutomationProject UpdateDataSource UpdateFlow",
      "UpdateFlowAlias UpdateGuardrail UpdateKnowledgeBase UpdateMarketplaceModelEndpoint",
      "UpdatePrompt UpdateProvisionedModelThroughput UpdateSession ValidateFlowDefinition"]),
    ("bedrock-agentcore", [
      "BatchCreateMemoryRecords BatchDeleteMemoryRecords BatchUpdateMemoryRecords",
      "CompleteResourceTokenAuth CreateABTest CreateAgentRuntime CreateAgentRuntimeEndpoint",
      "CreateApiKeyCredentialProvider CreateBrowser CreateBrowserProfile CreateCodeInterpreter",
      "CreateConfigurationBundle CreateEvaluator CreateEvent CreateGateway CreateGatewayRule",
      "CreateGatewayTarget CreateHarness CreateMemory CreateOauth2CredentialProvider",
      "CreateOnlineEvaluationConfig CreatePaymentConnector CreatePaymentCredentialProvider",
      "CreatePaymentInstrument CreatePaymentManager CreatePaymentSession CreatePolicy",
      "CreatePolicyEngine CreateRegistry CreateRegistryRecord CreateWorkloadIdentity",
      "DeleteABTest DeleteAgentRuntime DeleteAgentRuntimeEndpoint",
      "DeleteApiKeyCredentialProvider DeleteBatchEvaluation DeleteBrowser DeleteBrowserProfile",
      "DeleteCodeInterpreter DeleteConfigurationBundle DeleteEvaluator DeleteEvent",
      "DeleteGateway DeleteGatewayRule DeleteGatewayTarget DeleteHarness DeleteMemory",
      "DeleteMemoryRecord DeleteOauth2CredentialProvider DeleteOnlineEvaluationConfig",
      "DeletePaymentConnector DeletePaymentCredentialProvider DeletePaymentInstrument",
      "DeletePaymentManager DeletePaymentSession DeletePolicy DeletePolicyEngine",
      "DeleteRecommendation DeleteRegistry DeleteRegistryRecord DeleteResourcePolicy",
      "DeleteWorkloadIdentity Evaluate GetABTest GetAgentCard GetAgentRuntime",
      "GetAgentRuntimeEndpoint GetApiKeyCredentialProvider GetBatchEvaluation GetBrowser",
      "GetBrowserProfile GetBrowserSession GetCodeInterpreter GetCodeInterpreterSession",
      "GetConfigurationBundle GetConfigurationBundleVersion GetEvaluator GetEvent GetGateway",
      "GetGatewayRule GetGatewayTarget GetHarness GetMemory GetMemoryRecord",
      "GetOauth2CredentialProvider GetOnlineEvaluationConfig GetPaymentConnector",
      "GetPaymentCredentialProvider GetPaymentInstrument GetPaymentInstrumentBalance",
      "GetPaymentManager GetPaymentSession GetPolicy GetPolicyEngine GetPolicyEngineSummary",
      "GetPolicyGeneration GetPolicyGenerationSummary GetPolicySummary GetRecommendation",
      "GetRegistry GetRegistryRecord GetResourceApiKey GetResourceOauth2Token",
      "GetResourcePaymentToken GetResourcePolicy GetTokenVault GetWorkloadAccessToken",
      "GetWorkloadAccessTokenForJWT GetWorkloadAccessTokenForUserId GetWorkloadIdentity",
      "InvokeAgentRuntime InvokeAgentRuntimeCommand InvokeBrowser InvokeCodeInterpreter",
      "InvokeHarness ListABTests ListActors ListAgentRuntimeEndpoints ListAgentRuntimeVersions",
      "ListAgentRuntimes ListApiKeyCredentialProviders ListBatchEvaluations ListBrowserProfiles",
      "ListBrowserSessions ListBrowsers ListCodeInterpreterSessions ListCodeInterpreters",
      "ListConfigurationBundleVersions ListConfigurationBundles ListEvaluators ListEvents",
      "ListGatewayRules ListGatewayTargets ListGateways ListHarnesses ListMemories",
      "ListMemoryExtractionJobs ListMemoryRecords ListOauth2CredentialProviders",
      "ListOnlineEvaluationConfigs ListPaymentConnectors ListPaymentCredentialProviders",
      "ListPaymentInstruments ListPaymentManagers ListPaymentSessions ListPolicies",
      "ListPolicyEngineSummaries ListPolicyEngines ListPolicyGenerationAssets",
      "ListPolicyGenerationSummaries ListPolicyGenerations ListPolicySummaries",
      "ListRecommendations ListRegistries ListRegistryRecords ListSessions ListTagsForResource",
      "ListWorkloadIdentities ProcessPayment PutResourcePolicy RetrieveMemoryRecords",
      "SaveBrowserSessionProfile SearchRegistryRecords SetTokenVaultCMK StartBatchEvaluation",
      "StartBrowserSession StartCodeInterpreterSession StartMemoryExtractionJob",
      "StartPolicyGeneration StartRecommendation StopBatchEvaluation StopBrowserSession",
      "StopCodeInterpreterSession StopRuntimeSession SubmitRegistryRecordForApproval",
      "SynchronizeGatewayTargets TagResource UntagResource UpdateABTest UpdateAgentRuntime",
      "UpdateAgentRuntimeEndpoint UpdateApiKeyCredentialProvider UpdateBrowserStream",
      "UpdateConfigurationBundle UpdateEvaluator UpdateGateway UpdateGatewayRule",
      "UpdateGatewayTarget UpdateHarness UpdateMemory UpdateOauth2CredentialProvider",
      "UpdateOnlineEvaluationConfig UpdatePaymentConnector UpdatePaymentCredentialProvider",
      "UpdatePaymentManager UpdatePolicy UpdatePolicyEngine UpdateRegistry UpdateRegistryRecord",
      "UpdateRegistryRecordStatus UpdateWorkloadIdentity"]),
    ("billing", [
      "AssociateSourceViews CreateBillingView DeleteBillingView DisassociateSourceViews",
      "GetBillingView GetResourcePolicy ListBillingViews ListSourceViewsForBillingView",
      "ListTagsForResource TagResource UntagResource UpdateBillingView"]),
    ("billingconductor", [
      "AssociateAccounts AssociatePricingRules BatchAssociateResourcesToCustomLineItem",
      "BatchDisassociateResourcesFromCustomLineItem CreateBillingGroup CreateCustomLineItem",
      "CreatePricingPlan CreatePricingRule DeleteBillingGroup DeleteCustomLineItem",
      "DeletePricingPlan DeletePricingRule DisassociateAccounts DisassociatePricingRules",
      "GetBillingGroupCostReport ListAccountAssociations ListBillingGroupCostReports",
      "ListBillingGroups ListCustomLineItemVersions ListCustomLineItems ListPricingPlans",
      "ListPricingPlansAssociatedWithPricingRule ListPricingRules",
      "ListPricingRulesAssociatedToPricingPlan ListResourcesAssociatedToCustomLineItem",
      "ListTagsForResource TagResource UntagResource UpdateBillingGroup UpdateCustomLineItem",
      "UpdatePricingPlan UpdatePricingRule"]),
    ("braket", [
      "CancelJob CancelQuantumTask CreateJob CreateQuantumTask CreateSpendingLimit",
      "DeleteSpendingLimit GetDevice GetJob GetQuantumTask ListTagsForResource SearchDevices",
      "SearchJobs SearchQuantumTasks SearchSpendingLimits TagResource UntagResource",
      "UpdateSpendingLimit"]),
    ("budgets", [
      "CreateBudget CreateBudgetAction CreateNotification CreateSubscriber DeleteBudget",
      "DeleteBudgetAction DeleteNotification DeleteSubscriber DescribeBudget",
      "DescribeBudgetAction DescribeBudgetActionHistories DescribeBudgetActionsForAccount",
      "DescribeBudgetActionsForBudget DescribeBudgetNotificationsForAccount",
      "DescribeBudgetPerformanceHistory DescribeBudgets DescribeNotificationsForBudget",
      "DescribeSubscribersForNotification ExecuteBudgetAction ListTagsForResource TagResource",
      "UntagResource UpdateBudget UpdateBudgetAction UpdateNotification UpdateSubscriber"])]

end StackAudit.Catalog
