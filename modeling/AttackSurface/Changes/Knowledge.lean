import AttackSurface.Sensors.Observations

/-!
# Security knowledge (`app/changes/knowledge.py`)

The tables that change detection and risk scoring share: the ports whose exposure counts as
risky, and the texts that give an administrative interface or a login page away.
-/

namespace App.Changes

open PyText AsmSensors

/-- `RISKY_PORTS`: the service label and the severity when newly exposed. -/
def riskyPorts : List (Int × Str × Severity) :=
  [(21, "FTP".toList, .medium), (23, "Telnet".toList, .high), (69, "TFTP".toList, .high),
   (111, "RPCbind".toList, .medium), (135, "Microsoft RPC".toList, .high),
   (139, "NetBIOS".toList, .high), (161, "SNMP".toList, .medium), (389, "LDAP".toList, .medium),
   (445, "SMB".toList, .high), (873, "rsync".toList, .medium),
   (1433, "Microsoft SQL Server".toList, .high), (1521, "Oracle Database".toList, .high),
   (1883, "MQTT".toList, .medium), (2049, "NFS".toList, .high),
   (2375, "Docker API (unencrypted)".toList, .critical), (2379, "etcd".toList, .high),
   (3268, "LDAP Global Catalog".toList, .medium), (3306, "MySQL".toList, .high),
   (3389, "Remote Desktop (RDP)".toList, .high), (4786, "Cisco Smart Install".toList, .high),
   (5432, "PostgreSQL".toList, .high), (5601, "Kibana".toList, .medium),
   (5672, "AMQP".toList, .medium), (5900, "VNC".toList, .high), (5901, "VNC".toList, .high),
   (5984, "CouchDB".toList, .high), (5985, "WinRM".toList, .high),
   (5986, "WinRM (TLS)".toList, .high), (6379, "Redis".toList, .high),
   (6443, "Kubernetes API".toList, .medium), (8161, "ActiveMQ console".toList, .medium),
   (9042, "Cassandra".toList, .high), (9200, "Elasticsearch".toList, .high),
   (9300, "Elasticsearch transport".toList, .high), (10250, "Kubelet API".toList, .high),
   (11211, "Memcached".toList, .high), (15672, "RabbitMQ management".toList, .medium),
   (27017, "MongoDB".toList, .high), (27018, "MongoDB".toList, .high),
   (50070, "Hadoop NameNode".toList, .high)]

def riskyPort (port : Option Int) : Option (Str × Severity) := port.bind fun p => riskyPorts.lookup p

/-- `MANAGEMENT_INTERFACES`: lower-case text and label, in the order of the source. -/
def managementInterfaces : List (Str × Str) :=
  [("jenkins".toList, "Jenkins".toList), ("grafana".toList, "Grafana".toList),
   ("kibana".toList, "Kibana".toList), ("phpmyadmin".toList, "phpMyAdmin".toList),
   ("cpanel".toList, "cPanel".toList), ("webmin".toList, "Webmin".toList),
   ("plesk".toList, "Plesk".toList), ("vcenter".toList, "VMware vCenter".toList),
   ("vmware esxi".toList, "VMware ESXi".toList), ("fortigate".toList, "FortiGate".toList),
   ("fortinet".toList, "Fortinet".toList), ("fortiweb".toList, "FortiWeb".toList),
   ("citrix".toList, "Citrix".toList), ("netscaler".toList, "Citrix NetScaler".toList),
   ("pulse secure".toList, "Pulse Secure".toList), ("ivanti".toList, "Ivanti".toList),
   ("globalprotect".toList, "GlobalProtect".toList), ("palo alto".toList, "Palo Alto".toList),
   ("sonicwall".toList, "SonicWall".toList), ("cisco asa".toList, "Cisco ASA".toList),
   ("big-ip".toList, "F5 BIG-IP".toList), ("outlook web app".toList, "Outlook Web App".toList),
   ("microsoft exchange".toList, "Microsoft Exchange".toList), ("gitlab".toList, "GitLab".toList),
   ("portainer".toList, "Portainer".toList), ("rabbitmq".toList, "RabbitMQ".toList),
   ("tomcat".toList, "Apache Tomcat".toList), ("weblogic".toList, "Oracle WebLogic".toList),
   ("jboss".toList, "JBoss".toList), ("adminer".toList, "Adminer".toList),
   ("solr".toList, "Apache Solr".toList), ("zabbix".toList, "Zabbix".toList),
   ("nagios".toList, "Nagios".toList), ("pgadmin".toList, "pgAdmin".toList),
   ("mongo express".toList, "Mongo Express".toList), ("argocd".toList, "Argo CD".toList),
   ("kubernetes dashboard".toList, "Kubernetes Dashboard".toList),
   ("traefik".toList, "Traefik dashboard".toList), ("splunk".toList, "Splunk".toList),
   ("sophos".toList, "Sophos".toList), ("checkpoint".toList, "Check Point".toList),
   ("mikrotik".toList, "MikroTik".toList), ("routeros".toList, "MikroTik RouterOS".toList),
   ("ilo".toList, "HPE iLO".toList), ("idrac".toList, "Dell iDRAC".toList),
   ("synology".toList, "Synology DSM".toList), ("qnap".toList, "QNAP".toList),
   ("wordpress login".toList, "WordPress login".toList),
   ("wp-admin".toList, "WordPress admin".toList)]

/-- `LOGIN_MARKERS`. -/
def loginMarkers : List Str :=
  ["login".toList, "log in".toList, "sign in".toList, "signin".toList, "sso".toList,
   "authentication".toList, "تسجيل الدخول".toList, "دخول".toList]

/-- `management_interface(*texts)`: the label of the first text of the table in the lower-cased texts. -/
def managementInterface (U : Unicode) (texts : List (Option Str)) : Option Str :=
  let blob := [' '].intercalate (((texts.filterMap id).filter (· ≠ [])).map U.lower)
  if blob = [] then none
  else (managementInterfaces.find? fun e => contains e.1 blob).map Prod.snd

/-- `looks_like_login(title)`. -/
def looksLikeLogin (U : Unicode) (title : Option Str) : Bool :=
  loginMarkers.any fun m => contains m (U.lower (title.getD []))

end App.Changes
