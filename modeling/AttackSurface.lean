import AttackSurface.Scope.Reorder
import AttackSurface.Egress.Connections
import AttackSurface.Egress.Limits
import AttackSurface.Scans.Baseline
import AttackSurface.Services.Maintenance
import AttackSurface.Sensors.Coordination
import AttackSurface.Screenshots.Executing
import AttackSurface.Screenshots.Quota
import AttackSurface.Screenshots.Allowance
import AttackSurface.Integrations.Isolation
import AttackSurface.Integrations.Represented
import AttackSurface.Integrations.Dispatchers
import AttackSurface.Auth.Rotation
import AttackSurface.Services.AuditChain
import AttackSurface.Risk.Service
import AttackSurface.Threats.Consistency
import AttackSurface.Threats.Attribution
import AttackSurface.Assets.EndpointMisses
import AttackSurface.Assets.Context
import AttackSurface.Scans.Rereading
import AttackSurface.Exposure.Fetching
import AttackSurface.Threats.Versions
import AttackSurface.Findings.Fingerprints
import AttackSurface.Services.Certificates
import AttackSurface.Threats.Reporting
import AttackSurface.Findings.Alerts
import AttackSurface.Services.Schedules
import AttackSurface.Tenants.Service
import AttackSurface.Integrations.Reposting
