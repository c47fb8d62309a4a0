/-! # Names of characters: alphabets

Letters and marks of the alphabets from the beginning of the table on.
-/

namespace Assay.Text.CharacterName

def alphabetsLines : List String :=
  ["^20&uy&hbnm&runm&pguh&DOLLARuh&PERCENTuh&aq&ax&mhqm&sgqm&bh&qzuh&dw&ka&ifvh&uv&fozw*pt*yb*wy",
   "*ib*hu*um*to*gi*or&du&tl&mpuh&gvuh&isuh&rtnm&dxAT&mfcvmqA,B,C,D,E,F,G,H,I,J,K,L,M,N,O,P,Q,R,S",
   ",T,U,V,W,X,Y,Z&mhvccm&scuv&sgvccm&dpae&nbmt&irae&mfusmqA,B,C,D,E,F,G,H,I,J,K,L,M,N,O,P,Q,R,S,T",
   ",U,V,W,X,Y,Z&mheocm&ypmt&sgeocm&xc^A0&NO-BREAKuy&kshbnm&CENTuh&POUNDuh&CURRENCYuh&YENuh",
   "&BROKENbt&tiuh&fh&COPYRIGHTuh&FEMININE ORDINALki&mifxatrunm&ozuh&uujz&REGISTEREDuh&ng&DEGREEuh",
   "&PLUS-MINUSuh&vryb*wy&afae&MICROuh&PILCROWuh&ntft&cz&vrpt&MASCULINE ORDINALki&sifxatrunm",
   "&VULGARidptrq,iy+wyrr&ksrtnm&mfcvmqAzeir;af;dp;xc;fh;smad,AE,Czecz,Ezeir;af;dp;fh,Izeir;af;dp",
   ";fh,ETH,Nzexc,Ozeir;af;dp;xc;fh&ohuh&mfcvmqOzevj,Uzeir;af;dp;fh,Yzeaf,THORN*usmqSHARP S,Azeir",
   ";af;dp;xc;fh;smad,AE,Czecz,Ezeir;af;dp;fh,Izeir;af;dp;fh,ETH,Nzexc,Ozeir;af;dp;xc;fh&fruh",
   "&mfusmqOzevj,Uzeir;af;dp;fh,Yzeaf,THORN,Yzefh*cvmqAzeng*usmqAzeng*cvmqAzecn*usmqAzecn",
   "*cvmqAzepo*usmqAzepo*cvmqCzeaf*usmqCzeaf*cvmqCzedp*usmqCzedp*cvmqCzeftad*usmqCzeftad*cvmqCzecx",
   "*usmqCzecx*cvmqDzecx*usmqDzecx*cvmqDzevj*usmqDzevj*cvmqEzeng*usmqEzeng*cvmqEzecn*usmqEzecn",
   "*cvmqEzeftad*usmqEzeftad*cvmqEzepo*usmqEzepo*cvmqEzecx*usmqEzecx*cvmqGzedp*usmqGzedp*cvmqGzecn",
   "*usmqGzecn*cvmqGzeftad*usmqGzeftad*cvmqGzecz*usmqGzecz*cvmqHzedp*usmqHzedp*cvmqHzevj*usmqHzevj",
   "*cvmqIzexc*usmqIzexc*cvmqIzeng*usmqIzeng*cvmqIzecn*usmqIzecn*cvmqIzepo*usmqIzepo*cvmqIzeftad",
   "*usmqfuI*cvmrIJ*usmrIJ*cvmqJzedp*usmqJzedp*cvmqKzecz*usmqKzecz,KRA*cvmqLzeaf*usmqLzeaf",
   "*cvmqLzecz*usmqLzecz*cvmqLzecx*usmqLzecx*cvmqLzentft*usmqLzentft*cvmqLzevj*usmqLzevj*cvmqNzeaf",
   "*usmqNzeaf*cvmqNzecz*usmqNzecz*cvmqNzecx*usmqNzecx:PRECEDED BYax*cvmqENG*usmqENG*cvmqOzeng",
   "*usmqOzeng*cvmqOzecn*usmqOzecn*cvmqOzefxaf*usmqOzefxaf*cvmrpm*usmrpm*cvmqRzeaf*usmqRzeaf",
   "*cvmqRzecz*usmqRzecz*cvmqRzecx*usmqRzecx*cvmqSzeaf*usmqSzeaf*cvmqSzedp*usmqSzedp*cvmqSzecz",
   "*usmqSzecz*cvmqSzecx*usmqSzecx*cvmqTzecz*usmqTzecz*cvmqTzecx*usmqTzecx*cvmqTzevj*usmqTzevj",
   "*cvmqUzexc*usmqUzexc*cvmqUzeng*usmqUzeng*cvmqUzecn*usmqUzecn*cvmqUzesmad*usmqUzesmad",
   "*cvmqUzefxaf*usmqUzefxaf*cvmqUzepo*usmqUzepo*cvmqWzedp*usmqWzedp*cvmqYzedp*usmqYzedp*cvmqYzefh",
   ",Zzeaf*usmqZzeaf*cvmqZzeftad*usmqZzeftad*cvmqZzecx*usmqZzecx,myS,Bzevj*cvmqBzejv;TOPBAR",
   "*usmqBzeTOPBAR*cvmqxfum*usmqxfum*cvmqpvO,Czejv*usmqCzejv*cvmqAFRICAN D,Dzejv;TOPBAR",
   "*usmqDzeTOPBAR,xwfe*cvmqsdE,te,pvE,Fzejv*usmqFzejv*cvmqGzejv,ih*usmqHV*cvmqkt,Izevj,Kzejv",
   "*usmqKzejv,Lzebt,LAMBDAzevj*cvmqxwM,Nzemhjv*usmqNzemysgmm*cvmqOzentxc;jx*usmqOzejx*cvmqOI",
   "*usmqOI*cvmqPzejv*usmqPzejv*mqYR*cvmqxfyb*usmqxfyb*cvmqgz*mqsdgzna*usmqTzeqjjv*cvmqTzejv",
   "*usmqTzejv*cvmqTzesbjv,Uzejx*usmqUzejx*cvmqyj,Vzejv,Yzejv*usmqYzejv*cvmqZzevj*usmqZzevj",
   "*cvmqEZH:sd*usmqEZHsd:zewb*mqybzevj*cvmqxfhu*usmqxfhu*mqksiqvhzevj+WYNN+DENTALdq+LATERALdq",
   "+ALVEOLARdq+sbdq*cvmqDZzecx,DzeusmqZzecx*usmqDZzecx*cvmqLJ,LzeusmqJ*usmqLJ*cvmqNJ,NzeusmqJ",
   "*usmqNJ*cvmqAzecx*usmqAzecx*cvmqIzecx*usmqIzecx*cvmqOzecx*usmqOzecx*cvmqUzecx*usmqUzecx",
   "*cvmqUzefhasng*usmqUzefhasng*cvmqUzefhasaf*usmqUzefhasaf*cvmqUzefhascx*usmqUzefhascx",
   "*cvmqUzefhasir*usmqUzefhasir,xwE*cvmqAzefhasng*usmqAzefhasng*cvmqAzeftadasng*usmqAzeftadasng",
   "*cvmqAEzeng*usmqAEzeng*cvmqGzevj*usmqGzevj*cvmqGzecx*usmqGzecx*cvmqKzecx*usmqKzecx*cvmqOzepo",
   "*usmqOzepo*cvmqOzepoasng*usmqOzepoasng*cvmqEZHzecx*usmqEZHzecx,Jzecx*cvmqDZ,DzeusmqZ*usmqDZ",
   "*cvmqGzeaf*usmqGzeaf*cvmqHWAIR,WYNN,Nzeir*usmqNzeir*cvmqAzesmadasaf*usmqAzesmadasaf*cvmqAEzeaf",
   "*usmqAEzeaf*cvmqOzevjasaf*usmqOzevjasaf*cvmqAzefxir*usmqAzefxir*cvmqAzekscn*usmqAzekscn",
   "*cvmqEzefxir*usmqEzefxir*cvmqEzekscn*usmqEzekscn*cvmqIzefxir*usmqIzefxir*cvmqIzekscn",
   "*usmqIzekscn*cvmqOzefxir*usmqOzefxir*cvmqOzekscn*usmqOzekscn*cvmqRzefxir*usmqRzefxir",
   "*cvmqRzekscn*usmqRzekscn*cvmqUzefxir*usmqUzefxir*cvmqUzekscn*usmqUzekscn*cvmqSzedwbx",
   "*usmqSzedwbx*cvmqTzedwbx*usmqTzedwbx*cvmqYOGH*usmqYOGH*cvmqHzecx*usmqHzecx*cvmqNzemysgmm",
   "*usmqDzeen*cvmqOU*usmqOU*cvmqZzejv*usmqZzejv*cvmqAzeftad*usmqAzeftad*cvmqEzecz*usmqEzecz",
   "*cvmqOzefhasng*usmqOzefhasng*cvmqOzexcasng*usmqOzexcasng*cvmqOzeftad*usmqOzeftad",
   "*cvmqOzeftadasng*usmqOzeftadasng*cvmqYzeng*usmqYzeng,Lzeen,Nzeen,Tzeen,fuJ,DBfp,QPfp*cvmqAzevj",
   ",Czevj*usmqCzevj*cvmqLzebt,Tzefivj*usmqSzeSWASHwb,ZzeSWASHwb*cvmqiqvh*usmqiqvh*cvmqBzevj,Ubt",
   ",xwV,Ezevj*usmqEzevj*cvmqJzevj*usmqJzevj*cvmqusQzejvwb*usmqQzejvwb*cvmqRzevj*usmqRzevj",
   "*cvmqYzevj*usmqYzevj,xwA,an,xwan,Bzejv,pvO,Czeen,Dzewb;jv,sdE,te:zejv,pvE,sdpvE<zejv,dssdpvE",
   ",fuJzevj,Gzejv,tgG*mquscvG*usmqih,RAMSjx,xwH,Hzejv,HENGzejv,Izevj,kt*mquscvI*usmqLzentxc;BELT",
   ";sbjv,LEZH,xwM;zemymm,Mzejv,Nzemhjv;sbjv*mquscvN*usmqbvO*mquscvpm*usmqdspq,qu,xwR;zemymm<jv",
   ",Rzemymm;wb;ht,sdRzeht*mquscvR:ksR*usmqSzejv,gz,fuJzevjasjv,SQUATsdgz,gzzeen,xwT,Tzesbjv,Ubt",
   ",yj,Vzejv,xwV:W:Y*mquscvY*usmqZzesbjv;en,EZH:zeen*mqiqvh+PHARYNGEALyvFRICATIVE+ksiqvh",
   "+STRETCHED C+BILABIALdq+uscvB*usmqdspvE*mquscvGzejv:H*usmqJzeek,xwK*mquscvL*usmqQzejv",
   "*mqiqvhzevj+sdiqvhzevj*usmqDZfp,DEZHfp,DZfpzeen,TSfp,TESHfp,TCfpzeen,FENGfp,LSfp,LZfp",
   "*mqBILABIAL PERCUSSIVE+BIDENTAL PERCUSSIVE*usmqxwHzeht=aswb&nxmqusH:zejv,J,R,xwR;zejv,cvksR,W",
   ",Y+rg+fxrg+xwdw+ax+sddw+sgiysm+mhiysm+iqvh+sdiqvh+mhbe+sgbe+yfbe+gabe+dpae&cx&nxmqypmt+ng+afae",
   "+irae+nbypmt,ng,irae,afae+xpdu+iyxpdu+ddsgiysm,mhiysm+yfvz+gavz+qzuh+nwuh&cn&ftad&smad&po&usxc",
   "&fxafae&nxmqRHOTICjv+eiae+usih,L,S,X,sdiqvh+EXTRA-HIGHxfbt+jrxfbt+MIDxfbt+nbxfbt+EXTRA-LOWxfbt",
   "+YIN DEPARTINGxfnm+zkDEPARTINGxfnm+VOICING+UNASPIRATED+fxax+nbgabe,yfbe,mhbe,sgbe,sm+ntirae",
   ",fxirae:afae+nbxc+rwdu+BEGINjrxf+grjrxf+BEGINnbxf+grnbxf+SHELF+pvSHELF+nbmhbd&dvirae*afae*dpae",
   "*xc*ng*qf*cn*ftad*fh*jvad*smad*fxafae*cx*ypmtad*fxypmtad+irae*cu*kscn*xwdwad*dwad*sddwad",
   "*dwadsg*iraebx*afaebx*mhvzbx*sgvzbx*mhatad*jx*mhiysmbx*yfvzbx*gavzbx*qzuhbx*nwuhbx",
   "*PALATALIZEDjvbx*sbjvbx*ftbx*fhbx*smbx*dwbx*cz*po*ypmtbx*BRIDGEbx*ksfxARCHbx*cxbx*dpaebx*cnbx",
   "*kscnbx*xcbx*ngbx*nbmt*fxnbmt*xcqe*ucvjqe*myvjqe*ucuvqe*myuvqe*sgiysmbx*ksBRIDGEbx*vcbx",
   "*SEAGULLbx*Xad*ypxc*fxqf*irxfnm*afxfnm*itqr+KORONIS+fkxj+zo*BRIDGEad*gvuhbx*fxypmtbx*mhatbx",
   "*ozxcad*HOMOTHETICad*alguxead*mhsgbdbx*ykbdbx*GRAPHEME JOINER*sgbead*mhiysmad*FERMATA*Xbx",
   "*mhbebx*sgbebx,asyfbebx+iysmad*ftadsg*bhbx*fxsmbx*zzad*fxcnbx+cn+ng,bx+xc+kscn+slbdbx*mfusmqA",
   ":E:I:O:U:C:D:H:M:R:T:V:X&itcvmqHETA*usmqHETA*cvmqbbSAMPI*usmqbbSAMPI*phuh*ncphuh",
   "*cvmqPAMPHYLIAN DIGAMMA*usmqPAMPHYLIAN DIGAMMA^37A*zo*ussdneugvw+fwneugvw+sdfwneugvw*rtnm",
   "*cvmqYOT^384*xj*fkxj*cvmqanzexj*ANO TELEIA*cvmqgtzexj,hazexj,ktzexj^38C,przexj^38E,yjzexj",
   ",pqzexj*usmqktzefkasxj*cvmqan,ca,ih,fe,gt,zx,ha,wq,kt,lh,mb,of,NU,XI,pr,qw,se^3A3,ug,we,yj,qu",
   ",dk,rj,pq,ktzefk,yjzefk*usmqanzexj,gtzexj,hazexj,ktzexj,yjzefkasxj,an,ca,ih,fe,gt,zx,ha,wq,kt",
   ",lh,mb,of,NU,XI,pr,qw,se,hqug,ug,we,yj,qu,dk,rj,pq,ktzefk,yjzefk,przexj,yjzexj,pqzexj*cvKAIvw",
   "*cavw*wqvw*yjzejvvw,afasjvvw,fhasjvvw*quvw*qwvw*KAIvw*mqbbKOPPA*usmqbbKOPPA*mqSTIGMA",
   "*usmqSTIGMA*mqDIGAMMA*usmqDIGAMMA*mqKOPPA*usmqKOPPA*mqSAMPI*usmqSAMPI&eecvmqSHEI*usmqSHEI",
   "*cvmqFEI*usmqFEI*cvmqKHEI*usmqKHEI*cvmqHORI*usmqHORI*cvmqGANGIA*usmqGANGIA*cvmqSHIMA*usmqSHIMA",
   "*cvmqDEI*usmqDEI&itlhvw*sevw*neugvw*mqYOT*cvwqvw*negtvw*sdnegtvw*cvmqSHO*usmqSHO*cvneugvw",
   "+mqSAN*usmqSAN*sezevjvw*cvsdneugvw+fwneugvw+sdfwneugvw&ercvmqIEzeir,IO,DJE,GJE,UKRAINIAN IE",
   ",DZE,BYELORUSSIAN-UKRAINIAN I,YI,JE,LJE,NJE,TSHE,KJE,Izeir,ucU,DZHE,A,BE,VE,in,DE,IE,ZHE,ZE,I",
   ",ucI,le,EL,EM,gq,O,qq,ER,ES,wf,U,EF,iw,TSE,dh,tr,SHCHA,HARDuh,YERU,uuuh,E,zp,zj*usmqA,BE,VE,in",
   ",DE,IE,ZHE,ZE,I,ucI,le,EL,EM,gq,O,qq,ER,ES,wf,U,EF,iw,TSE,dh,tr,SHCHA,HARDuh,YERU,uuuh,E,zp,zj",
   ",IEzeir,IO,DJE,GJE,UKRAINIAN IE,DZE,BYELORUSSIAN-UKRAINIAN I,YI,JE,LJE,NJE,TSHE,KJE,Izeir,ucU",
   ",DZHE*cvmqpq*usmqpq*cvmqYAT*usmqYAT*cvmqkuE*usmqkuE*cvmqmuzq*usmqmuzq*cvmqkumuzq*usmqkumuzq",
   "*cvmqBIGzq*usmqBIGzq*cvmqkuBIGzq*usmqkuBIGzq*cvmqKSI*usmqKSI*cvmqrj*usmqrj*cvmqFITA*usmqFITA",
   "*cvmqIZHITSA*usmqIZHITSA*cvmqIZHITSAzefxirae*usmqIZHITSAzefxirae*cvmqUK*usmqUK*cvmqsspq",
   "*usmqsspq*cvmqpqzeTITLO*usmqpqzeTITLO*cvmqOT*usmqOT*cvmqKOPPA*usmqKOPPA*wxuh&dverTITLO",
   "+PALATALIZATION+faPNEUMATA+rkPNEUMATA+POKRYTIE+jywxuh+nvuh&ercvmqucIzewb*usmqucIzewb",
   "*cvmqSEMISOFTuh*usmqSEMISOFTuh*cvmqERzeTICK*usmqERzeTICK*cvmqinzeUPTURN*usmqinzeUPTURN",
   "*cvmqinzevj*usmqinzevj*cvmqinzentjv*usmqinzentjv*cvmqZHEzeff*usmqZHEzeff*cvmqZEzeff*usmqZEzeff",
   "*cvmqlezeff*usmqlezeff*cvmqlezeypvj*usmqlezeypvj*cvmqlezevj*usmqlezevj*cvmqBASHKIRle",
   "*usmqBASHKIRle*cvmqgqzeff*usmqgqzeff*cvmrgqin*usmrgqin*cvmqqqzentjv*usmqqqzentjv*cvmqaciw",
   "*usmqaciw*cvmqESzeff*usmqESzeff*cvmqwfzeff*usmqwfzeff*cvmqviU*usmqviU*cvmqviUzevj*usmqviUzevj",
   "*cvmqiwzeff*usmqiwzeff*cvmrwfTSE*usmrwfTSE*cvmqdhzeff*usmqdhzeff*cvmqdhzeypvj*usmqdhzeypvj",
   "*cvmqSHHA*usmqSHHA*cvmqacdh*usmqacdh*cvmqacdhzeff*usmqacdhzeff*mqPALOCHKA*cvmqZHEzecn",
   "*usmqZHEzecn*cvmqlezejv*usmqlezejv*cvmqELzewb*usmqELzewb*cvmqgqzejv*usmqgqzejv*cvmqgqzewb",
   "*usmqgqzewb*cvmqKHAKASSIANdh*usmqKHAKASSIANdh*cvmqEMzewb*usmqEMzewb,PALOCHKA*cvmqAzecn",
   "*usmqAzecn*cvmqAzefh*usmqAzefh*cvmrA IE*usmrA IE*cvmqIEzecn*usmqIEzecn*cvmqte*usmqte",
   "*cvmqtezefh*usmqtezefh*cvmqZHEzefh*usmqZHEzefh*cvmqZEzefh*usmqZEzefh*cvmqacDZE*usmqacDZE",
   "*cvmqIzeng*usmqIzeng*cvmqIzefh*usmqIzefh*cvmqOzefh*usmqOzefh*cvmqbvO*usmqbvO*cvmqbvOzefh",
   "*usmqbvOzefh*cvmqEzefh*usmqEzefh*cvmqUzeng*usmqUzeng*cvmqUzefh*usmqUzefh*cvmqUzefxaf",
   "*usmqUzefxaf*cvmqdhzefh*usmqdhzefh*cvmqinzeff*usmqinzeff*cvmqYERUzefh*usmqYERUzefh",
   "*cvmqinzevjasjv*usmqinzevjasjv*cvmqiwzejv*usmqiwzejv*cvmqiwzevj*usmqiwzevj*cvmqlwDE*usmqlwDE",
   "*cvmqlwDJE*usmqlwDJE*cvmqlwZJE*usmqlwZJE*cvmqlwDZJE*usmqlwDZJE*cvmqlwLJE*usmqlwLJE*cvmqlwNJE",
   "*usmqlwNJE*cvmqlwSJE*usmqlwSJE*cvmqlwTJE*usmqlwTJE*cvmqsdZE*usmqsdZE*cvmqELzejv*usmqELzejv",
   "*cvmqLHA*usmqLHA*cvmqRHA*usmqRHA*cvmqYAE*usmqYAE*cvmqQA*usmqQA*cvmqWE*usmqWE*cvmqALEUTle",
   "*usmqALEUTle*cvmqELzentjv*usmqELzentjv*cvmqgqzentjv*usmqgqzentjv*cvmqqqzeff*usmqqqzeff",
   "*cvmqSHHAzeff*usmqSHHAzeff*cvmqgqzemhjv*usmqgqzemhjv*cvmqDZZHE*usmqDZZHE*cvmqDCHE*usmqDCHE",
   "*cvmqELzeff*usmqELzeff^531&ARMENIANcvmqAYB,BEN,GIM,es,ECH,zr,EH,ET,xe,ZHE,INI,LIWN,XEH,cr,KEN",
   ",HO,kz,GHAD,CHEH,MEN,YI,NOW,tr,VO,de,PEH,JHEH,rv,SEH,VEW,TIWN,ry,CO,YIWN,PIWR,KEH,OH,hl",
   "^559*nxmqmhiysm*ax*EMPHASISnm*hbnm*dw*rtnm*abnm*usmqxwAYB,AYB,BEN,GIM,es,ECH,zr,EH,ET,xe,ZHE",
   ",INI,LIWN,XEH,cr,KEN,HO,kz,GHAD,CHEH,MEN,YI,NOW,tr,VO,de,PEH,JHEH,rv,SEH,VEW,TIWN,ry,CO,YIWN",
   ",PIWR,KEH,OH,hl+mrECH YIWN+mqYIzevj*ifvh*jz^58D&shARMENIAN ETERNITYuh",
   "&LEFT-FACING ARMENIAN ETERNITYuh&ARMENIAN DRAMuh^591&HEBREWaeETNAHTA+SEGOL+SHALSHELET",
   "+ZAQEF QATAN,GADOL+TIPEHA+REVIA+ZARQA+PASHTA+YETIV+TEVIR+GERESH,MUQDAM+GERSHAYIM+QARNEY PARA",
   "+TELISHA GEDOLA+PAZER+ATNAH HAFUKH+MUNAH+MAHAPAKH+MERKHA,KEFULA+DARGA+QADMA+TELISHA QETANA",
   "+YERAH BEN YOMO+OLE+ILUY+DEHI+ZINOR*nmMASORAdm*raSHEVA+HATAF SEGOL,PATAH,QAMATS+HIRIQ+TSERE",
   "+SEGOL+PATAH+QAMATS+HOLAM,HASERhxVAV+QUBUTS+eupyMAPIQ+METEG*rlMAQAF*raRAFE*rlPASEQ*raubft",
   "+SINft*rlSOF PASUQ*nmyift+ncft*rlpiHAFUKHA*raQAMATS QATAN^5D0*mqaj+BET+io+DALET+jk+VAV+zv+HET",
   "+TET+YOD+hqlf+lf+LAMED+hqns+ns+hqpi+pi+tb+bl+hqqq+qq+hqTSADI+TSADI+QOF+rz+ub+TAV^5EF*YODxn",
   "*mrYIDDISHfxVAV,VAV YOD,fxYOD*rlGERESH+GERSHAYIM^600&azpguh*uhSANAH*FOOTNOTEnn*uhSAFHA+SAMVAT",
   "*pgnmad&baCUBE ROOT*FOURTH ROOT&azRAY&baPER MILLEuh+wkwwuh&AFGHANIuh&azdw*DATEtn",
   "*POETIC VERSEuh*uhMISRA+SALLALLAHOU ALAYHE WASSALLAM+ALAYHE ASSALLAM+RAHMATULLAH ALAYHE",
   "+RADI ALLAHOU ANHU+TAKHALLUS*usjrwa,mrajzemazezl,zs+hj+ew+lk*tl*mqnm*grpnTEXTnm*xqftrlnm*rtnm",
   "*mqKASHMIRIzl+iz+ajzenhad:izad+zazeizad+ajzeizbx+zlzeizad+aj+bw+wiMARBUTA+wi+wo+lb+ix+lo+DAL",
   "+THAL+ry+zs+tj+ty+sy+et+wa+ZAH+ah+im+KEHEHzeybfvad:wyfvbx+FARSIzlzeksV;ybfvad;wyfvad*TATWEEL",
   "*mqhl+rm+lf+ma+nr+ow+jp+za+ajnk+zl*hk*DAMMATAN*KASRATAN*hj*ew*lk*SHADDA*SUKUN*MADDAHad*izad+bx",
   "*vmaj*ksew*nmowGHUNNA*ZWARAKAY*ywuhusVad,ksusVad,ftbx*sdew*hjzeybfv*WAVYizbx&bafozw+pt+yb+wy",
   "+ib+hu+um+to+gi+or&azPERCENTuh*DECIMALtn*wxtn*hurbvf*mqfubw,rm+vraj+ajWASLA,zeWAVYizad<bx+jriz",
   ":aj:za+Uzeizad+jrizzl+TTEH+TTEHEH+BEEH+wizesm:wyfvadgc+PEH+TEHEH+BEHEH+ixzeizad:ybfvypad+NYEH",
   "+DYEH+ixzewyfvad+TCHEH+TCHEHEH+DDAL+DALzesm:ftbx<asuswa+DAHAL+DDAHAL+DUL+DALzewyfvadgc:ibfvad",
   "+RREH+ryzeusV:sm:ftbx:usVbx:ftbxasftad:ybfvad+JEH+ryzeibfvad+tjzeftbxasftad:wyfvbx=aswyfvad",
   "+syzeybfvbx:wyfvad+wazewyfvad+ahzewyfvad+fuhl+hlzeftMOVEDbx;bx+VEH+hlzewyfvbx+PEHEH+rmzeftad",
   ":wyfvad+KEHEH+SWASHlf+lfzesm:ftad+NG+lfzewyfvbx+GAF,zesm+NGOEH+GAFzeybfvbx+GUEH+GAFzewyfvad",
   "+mazeusV:ftad:wyfvad<bx+owzeftbx,GHUNNA+RNOON+owzesm:wyfvad+jpDOACHASHMEE+TCHEHzeftad+jpzezlad",
   ",GOAL:zeizad+wiMARBUTA GOAL+zazesm+KIRGHIZpm+pm+U+zp+KIRGHIZzp+zazeybfvad+VE+FARSIzl+zlzewb",
   ":usV+zazeftad+E+zlzewyfvbx,BARREE:zeizad*ifvh*mqAE*usjrmrsyzemazeajnk:rmzemazeajnk,nrklhy,maaj",
   ",lb,wyfv,tj*grpnAYAH*STARTpnRUB EL HIZB*usjrstzw,UPRIGHT RECTANGULARzw,fujlpnlo,nrkvhy+nbtj",
   "+jrnh+za+zl+jrzl,ow*PLACEpnSAJDAH*EMPTYdcnbvh,jrvh*stjrvhzeFILLEDdc*usnbnr*mqDALzeksV+ryzeksV",
   "&hcbafozw,pt,yb,wy,ib,hu,um,to,gi,or&azmqtyzeftbx+etzeftbx+imzeftbx*uhSINDHIaq",
   ",POSTPOSITION MEN*mqjpzeksV&SYRIACgrpnqk*SUPRALINEARifvh*SUBLINEARifvh*SUPRALINEARdu",
   "*SUBLINEARdu*jwdu*duSKEWEDmh,sg*SUPRALINEARduSKEWEDmh*SUBLINEARduSKEWEDsg*CONTRACTION",
   "*HARKLEAN OBELUS+METOBELUS+ASTERISCUS^70F*abnm*mqALAPH+vrALAPH+cb+GAMAL,GARSHUNI+DALATH",
   "+fuDALATH RISH+jk+za+zs+jq+TETH,GARSHUNI+YUDH,jk+lg+LAMADH+MIM+pi+SEMKATH+hqSEMKATH+E+qq+sdqq",
   "+sz+QAPH+RISH+ub+TAW+PERSIAN BHETH,GHAMAL,DHALATH*PTHAHAad+bx+fw*ZQAPHAad+bx+fw*RBASAad+bx",
   "*fwZLAMAjw,ANGULAR*HBASAad+bx*HBASA-ESASAfw*ESASAad+bx*RWAHA*FEMININEft*QUSHSHAYA*RUKKAKHA",
   "*ybypfvad:bx*wyfvad,bx*pkmtad,bx*MUSIC*BARREKH^74D*mqSOGDIAN ZHAIN,KHAPH,FE",
   "&azmqbwzewyfvHORIZONTALLYbx:ftbxaswyfvad:wyfvrcykbx~asybfvad:ybfvbxasftad:ksusVbx:usV",
   "+ixzeybfvad:wyfvrcykbx+DALzeybfvyqbxasuswa:ksusVbx+ryzevj+tjzeibfvad+ahzeybfvad:wyfvrcgcad",
   ":ybfvyqad+hlzeybfvbx:wyfvrcykbx+KEHEHzeftad:wyfvad<rcykbx+nrzeftad;bx+owzeybfvbx:uswa;V+mazebt",
   "+ryzeybfvyqad:izad+tjzeybfvyqad+ixzeusazmqwabx>asybfv+tjzeusazmqwaasybfv+ryzeusazmqwaasybfv",
   "+ixzeusazmqwaad+ajzehcbafoybad=wyad+FARSIzlzehcbafoybad>wyad>ibbx+zazehcbafoybad=wyad",
   "+zlBARREEzehcbafoybad>wyad+ixzehcbafoibbx+tjzehcbafoibad:ksV+lfzeybfvad&THAANAmqHAA+SHAVIYANI",
   "+NOONU+RAA+BAA+LHAVIYANI+KAAFU+ALIFU+VAAVU+MEEMU+FAAFU+DHAALU+THAA+LAAMU+GAAFU+GNAVIYANI+SEENU",
   "+DAVIYANI+ZAVIYANI+TAVIYANI+YAA+PAVIYANI+JAVIYANI+CHAVIYANI+TTAA+HHAA+KHAA+THAALU+ZAA+SHEENU",
   "+SAADHU+DAADHU+xe+ZO+AINU+GHAINU+QAAFU+WAAVU*ABAFILI*AABAAFILI*IBIFILI*EEBEEFILI*UBUFILI",
   "*OOBOOFILI*EBEFILI*EYBEYFILI*OBOFILI*OABOAFILI*SUKUN*mqNAA^7C0&NKOfozw+pt+yb+wy+ib+hu+um+to+gi",
   "+or*mqA+gg+I+E+U+pu+O+DAGBASINNA+N+bm+qh+vx+kz+de+es+rv+sv+sx+GBA+hg+le+ly+okWOLOSO+nf+pj+ok",
   "+iw+yx+zj+pjWOLOSO+JONAkz,de,rv*dvucjrxf,nbxf,snxf+myDESCENDINGxf,jrxf,nbxf,snxf",
   "+NASALIZATIONnm+fxftad*jrxfax*nbxfax*vwpuDENNEN+GBAKURUNEN*dw*hbnm*LAJANYALAN^7FD*DANTAYALAN",
   "*DOROMEuh*TAMANuh&SAMARITANmqALAF+BIT+GAMAN+DALAT+IY+BAA+ZEN+IT+TIT+YUT+KAAF+LABAT+MIM+pi",
   "+SINGAAT+kf+FI+TSAADIY+QUF+RISH+SHAN+TAAF*nmkf+IN-ALAF+OCCLUSION+eu*nxmqEPENTHETIC YUT",
   "*nmEPENTHETIC YUT*ywuhmyE,E,OVERLONGaa,myaa,aa,OVERLONG A,myA,A*nxmqucA*ywuhucA,myU,U*nxmqI",
   "*ywuhmyI,I,O,SUKUN*nmNEQUDAA^830*rlNEQUDAA+AFSAAQ+ANGED+BAU+ATMAAU+SHIYYAALAA*abnm",
   "*rlMELODIC QITSA+ZIQAA+QITSA+ZAEF+TURU+ARKAANU+SOF MASHFAAT+ANNAAU^840&MANDAICmqHALQA+AB+AG+AD",
   "+AH+USHENNA+AZ+IT+ATT+AKSA+AK+AL+AM+ar+AS+kf+AP+ASZ+AQ+AR+bg+AT+DUSHENNA+KAD+ah*AFFRICATIONnm",
   "*VOCALIZATIONnm*iknm^85E*rl^860&SYRIACmqMALAYALAMoq,kz,pj,xu,ou,NNNA,cd,rv,mw,LLLA,ve",
   "^870&azmqajzebihj;xksghj:sgntvj:mhntvj:bilk;cksglk;ssftad;sgssft;mhssft;ssftbx:ftad",
   ":bixksghjasftad:sgntvjasftad:bicksglkasftad;xksghjasmhsm:sgntvjasmhsm:bicksglkasmhsm;sgiz;mhiz",
   "*TATWEELzeOVERSTRUCKiz:za,ybfvbx*mqTHINzl*BASELINEssft*rwssft*mqowzeksusV+ixzeksusVbx+wazeftbx",
   ":wyfvbx+KEHEHzeybfvyqbx*ypwb^890*POUNDnmad*PIASTREnmad^898*usjrzfAL-JUZ+nbzfISHMAAM:IMAALA",
   ":TASHEEL*nhWAAJIB*vrajMOKHASSAS*DOUBLEDnh*iynhqcnh*mqbwzeusVbx:izad+lbzeybfvad+wazeybfvad",
   "+hlzeftbxaswyfvad+rmzeftbx+mazefxbt+nrzewyfvad+zlzeybfvbxasizad>ftad+ryzena+zazeftWITHIN",
   "+ROHINGYAzl+nbaj+DALzewyfvbx+syzewyfvbx+GAFzeksvj+viza+zszeksVad+ahzewyfvbx+lfzeftbx",
   "+rmzeftbxasovfvad+bwzeusnrad+PEHzeusnrad+wizeuswiad+ryzeusowad+zlzeybfvbxasusowad+AFRICANhl,rm",
   ",ow+PEHzeusV+wizeusV+TTEHzeusV+TCHEHzeusV+KEHEHzeusV+imzewyfvad+AFRICANrmzewyfvad+lbzewyfvad",
   "<bx+mazeusazmqwaad+GRAF*usFARSIzl+jrFARSIzl,zlBARREEzeybfvbx,zfSAH,ZAH*mdssftad:bx*SUKUNbx",
   "*mddmbx+ssftkmdmbx*usnbza+jrzfAR-RUB,sy,ah,rm,owzelk+nbowzelk+jrzfATH-THALATHA:AS-SAJDA",
   ":AN-NISF:SAKTA:QIF:WAQFA,FOOTNOTEnn,uhSAFHA*DISPUTEDgrpnAYAH*xwewbx*eohj+ew+lk+hk+DAMMATAN",
   "+KASRATAN*xfptftad+ybfvad+naad+ptftbx+ybfvbx+nabx*pvhk+DAMMATAN+KASRATAN*usjrza*hjzesm,ftad",
   "*lkzeftbx*mhbead*sgbead*mhbebx*sgbebx*fxsgbead;zeft*sgbeadzeft*ewzeft*nmufowGHUNNA",
   "&DEVANAGARIuhkscu+cu+aw+yt*mqucA+A+aa+I+ke+U+yl+yuR,L+ctE+ucE+E+ag+ctO+ucO+O+bj+le+ln+ig+il+oq",
   "+cr+de+kz+lc+pj+xu+xv+fb+fc+ou+vx+wm+es+fg+ok+NNNA+qh+qt+bm+cd+nf+zj+rv+sv+ly+mw+LLLA+ym+tr+ve",
   "+sx+iw*ywuhpm,OOE*uhpf+bk*ywuhaa,I,ke,U,yl,yuR:su,ctE,ucE,E,ag,ctO,ucO,O,bj*uhys",
   "*ywuhPRISHTHAMATRA E,AW*OM*STRESSuhUDATTA,ANUDATTA*irae*afae*ywuhctmyE,UE,UUE*mqQA+KHHA+GHHA",
   "+zr+DDDHA+RHA+hg+YYA+yusu,mv*ywuhyuL:mv*ex*fxex*fozw+pt+yb+wy+ib+hu+um+to+gi+or*abuh",
   "*uhjrSPACINGft*mqctA+pm+OOE+AW+UE+UUE+MARWARIfb+zy+jozj+GGA+JJA+iqvh+DDDA+BBA&BENGALI ANJI",
   "*uhcu+aw+yt^985*mqA+aa+I+ke+U+yl+yuR,L^98F+E+ag^993+O+bj+le+ln+ig+il+oq+cr+de+kz+lc+pj+xu+xv",
   "+fb+fc+ou+vx+wm+es+fg+ok^9AA+qh+qt+bm+cd+nf+zj+rv^9B2+ly^9B6+tr+ve+sx+iw^9BC*uhpf+bk*ywuhaa,I",
   ",ke,U,yl,yuR:su^9C7,E,ag^9CB,O,bj*uhys*mqKHANDAvx^9D7*bjmnnm^9DC*mqsv+RHA^9DF+YYA+yusu,mv",
   "*ywuhyuL:mv^9E6*fozw+pt+yb+wy+ib+hu+um+to+gi+or*mqrvzentfi:ncfi*RUPEEnm+uh",
   "*CURRENCY NUMERATORpt,yb,wy,ib,ptLESS THANwnDENOMINATOR+DENOMINATORun*ISSHAR*GANDAnm*mqVEDICaw",
   "*abuh*SANDHInm^A01&GURMUKHIuhADAK BINDI+BINDI+yt^A05*mqA+aa+I+ke+U+yl^A0F+gg+ag^A13+pu+bj+le",
   "+ln+ig+il+oq+cr+de+kz+lc+pj+xu+xv+fb+fc+ou+vx+wm+es+fg+ok^A2A+qh+qt+bm+cd+nf+zj+rv^A32+ly+mw",
   "^A35+ym+tr^A38+sx+iw^A3C*uhpf^A3E*ywuhaa,I,ke,U,yl^A47,gg,ag^A4B,pu,bj*uhys^A51+UDAAT",
   "^A59*mqKHHA+GHHA+zr+sv^A5E+hg^A66*fozw+pt+yb+wy+ib+hu+um+to+gi+or*TIPPI*ADDAK*IRI*URA*EK ONKAR",
   "*uhYAKASH*abuh^A81&GUJARATIuhcu+aw+yt^A85*mqA+aa+I+ke+U+yl+yuR,L*ywctE^A8F*mqE+ag*ywctO",
   "^A93*mqO+bj+le+ln+ig+il+oq+cr+de+kz+lc+pj+xu+xv+fb+fc+ou+vx+wm+es+fg+ok^AAA+qh+qt+bm+cd+nf+zj",
   "+rv^AB2+ly+mw^AB5+ym+tr+ve+sx+iw^ABC*uhpf+bk*ywuhaa,I,ke,U,yl,yuR:su,ctE^AC7,E,ag,ctO^ACB,O,bj",
   "*uhys^AD0*OM^AE0*mqyusu,mv*ywuhyuL:mv^AE6*fozw+pt+yb+wy+ib+hu+um+to+gi+or*abuh*RUPEEuh",
   "^AF9*mqzy*uhSUKUN+SHADDA+MADDAH+THREE-DOTpfad+dmpfad+TWO-CIRCLEpfad^B01&ORIYAuhcu+aw+yt",
   "^B05*mqA+aa+I+ke+U+yl+yuR,L^B0F+E+ag^B13+O+bj+le+ln+ig+il+oq+cr+de+kz+lc+pj+xu+xv+fb+fc+ou+vx",
   "+wm+es+fg+ok^B2A+qh+qt+bm+cd+nf+zj+rv^B32+ly+mw^B35+ym+tr+ve+sx+iw^B3C*uhpf+bk*ywuhaa,I,ke,U",
   ",yl,yuR:su^B47,E,ag^B4B,O,bj*uhys^B55+qf*agmnnm*bjmnnm^B5C*mqsv+RHA^B5F+YYA+yusu,mv*ywuhyuL:mv",
   "^B66*fozw+pt+yb+wy+ib+hu+um+to+gi+or*ISSHAR*mqyx*idptrq,iy+wyrr+ptuo,gk+wySIXTEENTHS",
   "^B82&TAMILuhaw+yt^B85*mqA+aa+I+ke+U+yl^B8E+E+gg+ag^B92+O+pu+bj+le^B99+oq+cr^B9C+kz^B9E+pj+xu",
   "^BA3+ou+vx^BA8+ok+NNNA+qh^BAE+nf+zj+rv+sv+ly+mw+LLLA+ym+tr+ve+sx+iw^BBE*ywuhaa,I,ke,U,yl^BC6,E",
   ",gg,ag^BCA,O,pu,bj*uhys^BD0*OM^BD7*bjmnnm^BE6*fozw+pt+yb+wy+ib+hu+um+to+gi+or*pgwk+ptjy,ww",
   "*DAYuh*MONTHuh*YEARuh*DEBITuh*CREDITuh*ASaduh*RUPEEuh*pguh^C00&TELUGUuhdvcuad+cu+aw+yt+dvawad",
   "*mqA+aa+I+ke+U+yl+yuR,L^C0E+E+gg+ag^C12+O+pu+bj+le+ln+ig+il+oq+cr+de+kz+lc+pj+xu+xv+fb+fc+ou",
   "+vx+wm+es+fg+ok^C2A+qh+qt+bm+cd+nf+zj+rv+sv+ly+mw+LLLA+ym+tr+ve+sx+iw^C3C*uhpf+bk*ywuhaa,I,ke",
   ",U,yl,yuR:su^C46,E,gg,ag^C4A,O,pu,bj*uhys^C55*mnnm*agmnnm^C58*mqxr+DZA+RRRA^C5D+NAKAARA POLLU",
   "^C60+yusu,mv*ywuhyuL:mv^C66*fozw+pt+yb+wy+ib+hu+um+to+gi+or^C77*uhud*idfozwhxODD POWERSpnib",
   ",pthxODD POWERSpnib,ybhxODD POWERSpnib,wyhxODD POWERSpnib,pthxEVEN POWERSpnib",
   ",ybhxEVEN POWERSpnib,wyhxEVEN POWERSpnib*uhTUUMU&KANNADAuhSPACINGcu+cu+aw+yt+ud*mqA+aa+I+ke+U",
   "+yl+yuR,L^C8E+E+gg+ag^C92+O+pu+bj+le+ln+ig+il+oq+cr+de+kz+lc+pj+xu+xv+fb+fc+ou+vx+wm+es+fg+ok",
   "^CAA+qh+qt+bm+cd+nf+zj+rv+sv+ly+mw^CB5+ym+tr+ve+sx+iw^CBC*uhpf+bk*ywuhaa,I,ke,U,yl,yuR:su",
   "^CC6,E,gg,ag^CCA,O,pu,bj*uhys^CD5*mnnm*agmnnm^CDD*mqNAKAARA POLLU+hg^CE0+yusu,mv*ywuhyuL:mv",
   "^CE6*fozw+pt+yb+wy+ib+hu+um+to+gi+or^CF1*uhld+yh^D00&MALAYALAMuhdvawad+cu+aw+yt*mqVEDICaw+A+aa",
   "+I+ke+U+yl+yuR,L^D0E+E+gg+ag^D12+O+pu+bj+le+ln+ig+il+oq+cr+de+kz+lc+pj+xu+xv+fb+fc+ou+vx+wm+es",
   "+fg+ok+NNNA+qh+qt+bm+cd+nf+zj+rv+sv+ly+mw+LLLA+ym+tr+ve+sx+iw+TTTA*uhypbtys+CIRCULARys+bk",
   "*ywuhaa,I,ke,U,yl,yuR:su^D46,E,gg,ag^D4A,O,pu,bj*uhys*mqftREPH*uhPARA^D54*mqCHILLU M,Y,LLL",
   "*bjmnnm*idptONE-HUNDRED-AND-SIXTIETH,FORTIETH+wyEIGHTIETHS+ptTWENTIETH,TENTH+wyTWENTIETHS",
   "+ptFIFTH*mqbbke+yusu,mv*ywuhyuL:mv^D66*fozw+pt+yb+wy+ib+hu+um+to+gi+or*pgwk+ptjy,ww*idptrq,iy",
   "+wyrr+ptuo,gk+wySIXTEENTHS*DATEnm*mqCHILLU NN,N,su,L,mv,K^D81&SINHALAuhcu+ANUSVARAYA+VISARGAYA",
   "^D85*mqAYANNA+AAYANNA+AEYANNA+AEEYANNA+IYANNA+IIYANNA+UYANNA+UUYANNA+IRUYANNA+IRUUYANNA",
   "+ILUYANNA+ILUUYANNA+EYANNA+EEYANNA+AIYANNA+OYANNA+OOYANNA+AUYANNA^D9A+amKAYANNA+niKAYANNA",
   "+amGAYANNA+niGAYANNA+KANTAJA NAASIKYAYA+SANYAKA GAYANNA+amCAYANNA+niCAYANNA+amJAYANNA",
   "+niJAYANNA+TAALUJA NAASIKYAYA,SANYOOGA NAAKSIKYAYA+SANYAKA JAYANNA+amTTAYANNA+niTTAYANNA",
   "+amDDAYANNA+niDDAYANNA+MUURDHAJA NAYANNA+SANYAKA DDAYANNA+amTAYANNA+niTAYANNA+amDAYANNA",
   "+niDAYANNA+DANTAJA NAYANNA^DB3+SANYAKA DAYANNA+amPAYANNA+niPAYANNA+amBAYANNA+niBAYANNA+MAYANNA",
   "+AMBA BAYANNA+YAYANNA+RAYANNA^DBD+DANTAJA LAYANNA^DC0+VAYANNA+TAALUJA SAYANNA",
   "+MUURDHAJA SAYANNA+DANTAJA SAYANNA+HAYANNA+MUURDHAJA LAYANNA+FAYANNA^DCA*uhAL-LAKUNA",
   "^DCF*ywuhAELA-PILLA,KETTI AEDA-PILLA,DIGA AEDA-PILLA,KETTI IS-PILLA,DIGA IS-PILLA",
   ",KETTI PAA-PILLA^DD6,DIGA PAA-PILLA^DD8,GAETTA-PILLA,KOMBUVA,DIGA KOMBUVA,KOMBU DEKA",
   ",KOMBUVA HAA AELA-PILLA;DIGA AELA-PILLA;GAYANUKITTA,GAYANUKITTA^DE6*LITHfozw,pt,yb,wy,ib,hu,um",
   ",to,gi,or^DF2*ywuhDIGA GAETTA-PILLA:GAYANUKITTA*rlKUNDDALIYA^E01&THAIdfKO KAI+KHO KHAI,KHUAT",
   ",KHWAI,KHON,RAKHANG+NGO NGU+CHO CHAN,CHING,CHANG+SO SO+CHO CHOE+YO YING+DO CHADA+xePATAK",
   "+THO THAN,NANGMONTHO,PHUTHAO+ovNEN+DO DEK+xeTAO+THO THUNG,THAHAN,THONG+ovNU+BO BAIMAI+PO PLA",
   "+PHO PHUNG+FOhg+PHO PHAN+FO FAN+PHO SAMPHAO+MOnf+YO YAK+RO RUA+RU+LO LING+LU+WO WAEN+SO SALA",
   ",RUSI,SUA+HO HIP+LO CHULA+O ANG+HO NOKHUK+PAIYANNOI+SARA A+MAI HAN-AKAT+SARAaa,AM,I,ke,UE,UEE",
   ",U,yl+PHINTHU^E3F*CURRENCYvwBAHT*dfSARA E,AE,O,agMAIMUAN:MAIMALAI+LAKKHANGYAO+MAIYAMOK",
   "+MAITAIKHU+MAI EK,THO,TRI,CHATTAWA+THANTHAKHAT+NIKHAHIT+YAMAKKAN+FONGMAN*fozw+pt+yb+wy+ib+hu",
   "+um+to+gi+or*dfANGKHANKHU+KHOMUT^E81&LAOmqKO+KHO SUNG^E84,TAM^E86+PALIil+NGO+CO+PALIde+SO TAM",
   "^E8C+PALIlc+NYO+PALIpj,xu,xv,fb,fc,ou+DO+xe+THO SUNG,TAM+PALIfg+ov+BO+PO+PHO SUNG+FO TAM",
   "+PHO TAM+FO SUNG+PALIcd+MO+YO+LO LING^EA5,LOOT^EA7+WO+SANSKRITtr,ve+SO SUNG+HO SUNG+PALImw+O",
   "+HO TAM*gp*ywuhA,MAI KAN,aa,AM,I,ke,Y,YY,U,yl*uhPALIys*ywuhMAI KON*SEMIVOWELuhLO,NYO^EC0*ywuhE",
   ",EI,O,AY,ag^EC6*KOly^EC8*xfMAI EK,THO,TI,CATAWA*csnm*NIGGAHITA^ED0*fozw+pt+yb+wy+ib+hu+um+to",
   "+gi+or^EDC*HOov+MO*mqKHMU GO,NYO^F00&TIBETANvvOM*nmGTER YIG MGO TRUNCATED A;-UM RNAM BCADnf",
   "<GTERxtnf+klYIG MGO MDUNnf+CLOSING YIG MGO SGABnf+cwYIG MGO PHURtsnf+YIG MGOxttsnf+SBRULts",
   "+BSKUR YIG MGO+BKA- SHOG YIG MGO+INTERSYLLABICxt+DELIMITERxtBSTAR+ts+NYISts+xtts+NYISxtts",
   "+RIN CHEN SPUNGSts+RGYA GRAMts+cw-DZUDswMEmyCAN+GTERxt*LOGOTYPEuhCHADsw,LHAGsw",
   "*ASTROLOGICALuhSGRA GCAN -CHARsw,-KHYUDqh,SDONG TSHUGS*uhRDEL DKAR GCIG:GNYIS:GSUM,NAG GCIG",
   ":GNYIS,DKAR RDEL NAG*fozw+pt+yb+wy+ib+hu+um+to+gi+or+iypt,yb,wy,ib,hu,um,to,gi,or,zw*nmBSDUSsw",
   "+NGAS BZUNG NYI ZLA+cw-DZUDswBZHI MIG CAN+NGAS BZUNG SGORsw+dhMGO+xr-PHRU+GUGswGYON:GYAS",
   "+ANG KHANG GYON:GYAS*uhYAR TSHES+MAR TSHES*mqle+ln+ig+il+oq+cr+de+kz^F49+pj+xu+xv+fb+fc+ou+vx",
   "+wm+es+fg+ok+qh+qt+bm+cd+nf+xr+xs+DZA+DZHA+yx+zy+zr+-A+zj+rv+ly+tr+ve+sx+iw+A+KSSA",
   "+FIXED-FORMrv+KKA+sv^F71*ywuhaa,I,ke,U,yl,yuR:su:L:mv,E,gg,O,pu*uhRJES SUoqRO+RNAM BCAD",
   "*ywuhsdI:ke*uhNYI ZLA NAAes+SNA LDAN*nmHALANTA+PALUTA*uhLCIsw+zksw+LCExrCAN+MCHU CAN",
   "+GRU CAN RGYINGS,MED RGYINGS+ksMCHU CAN*vluhLCExrCAN,MCHU CAN,ksMCHU CAN+mqle,ln,ig,il,oq,cr",
   ",de,kz^F99,pj,xu,xv,fb,fc,ou,vx,wm,es,fg,ok,qh,qt,bm,cd,nf,xr,xs,DZA,DZHA,yx,zy,zr,-A,zj,rv,ly",
   ",tr,ve,sx,iw,A,KSSA,FIXED-FORMyx:zj:rv^FBE*KU RUln:BZHI MIG CAN*CANTILLATIONuhjoBEAT,msBEAT",
   ",CANG TE-U,SBUB -CHAL*vwDRIL BU+RDO RJE+PADMA GDAN+RDO RJE RGYA GRAM+PHURqh+NOR BU:NYIS -KHYIL",
   ":GSUM -KHYIL:BZHI -KHYIL^FCE*uhRDEL NAG RDEL DKAR:GSUM*nmBSKA- SHOG GI MGO RGYAN",
   "+MNYAM YIG GI MGO RGYAN+NYISxt+klBRDA RNYING YIG MGO MDUNnf+CLOSING BRDA RNYING YIG MGO SGABnf",
   "&shSVASTIuh&LEFT-FACING SVASTIuh&shSVASTIuhzefv&LEFT-FACING SVASTIuhzefv",
   "&TIBETANnmLEADING MCHANsw+TRAILING MCHANsw^1000&MYANMARmqle+ln+ig+il+oq+cr+de+kz+lc+pj+NNYA+xu",
   "+xv+fb+fc+ou+vx+wm+es+fg+ok+qh+qt+bm+cd+nf+zj+rv+ly+yx+sx+iw+mw+A+SHAN A+I+ke+U+yl+E+MON E+O",
   "+bj*ywuhTALLaa,aa,I,ke,U,yl,E,ag,MONke:O,Ead*uhaw+ftbx+yt+ys+ASAT*eauhnpzj:rv:yx:iw*mqGREATsx",
   "*fozw+pt+yb+wy+ib+hu+um+to+gi+or*uhmuti+ti*vwLOCATIVE+COMPLETED+AFOREMENTIONED+GENITIVE*mqtr",
   "+ve+yuR,su,L,mv*ywuhyuR:su:L:mv*mqMONoq,lc,BBA,BBE*eauhMONnpok;nf;ly*mqSGAWlitr*ywuhSGAWliEU",
   "*xfnmSGAWliHATHI;KE PHO*mqWESTERN PWOliwm;PWA*ywuhWESTERN PWOliEU<UE*uhWESTERN PWOliTONE-1;xg",
   ";xh;TONE-4;xi*mqEASTERN PWOliou;YWA;GHWA*ywuhGEBAliI,KAYAHpm:U:gg*mqSHANle,ln,ig,cr,zr,pj,es",
   ",ok,qt,hg,bm,wm,iw*eauhSHANnpyx*ywuhSHANaa:E;ad:hqY*uhSHANxg,xh,xi,TONE-6,COUNCILxg:xh",
   ":EMPHATICxf*mqRUMAI PALAUNGhg*uhRUMAI PALAUNGxi*SHANfozw,pt,yb,wy,ib,hu,um,to,gi,or",
   "*uhKHAMTI TONE-1,xh*ywuhAITON A:ag*vwSHANpt,hb&GEORGIANcvmqar,BAN,GAN,DON,gq,VIN,ZEN,TAN,kf",
   ",KAN,LAS,nl,NAR,ps,PAR,ZHAR,RAE,SAN,TAR,UN,PHAR,KHAR,GHAN,QAR,ub,CHIN,CAN,JIL,CIL,CHAR,XAN",
   ",JHAN,HAE,jk,HIE,WE,HAR,HOE^10C7,YN^10CD,AEN^10D0*mqar+BAN+GAN+DON+gq+VIN+ZEN+TAN+kf+KAN+LAS",
   "+nl+NAR+ps+PAR+ZHAR+RAE+SAN+TAR+UN+PHAR+KHAR+GHAN+QAR+ub+CHIN+CAN+JIL+CIL+CHAR+XAN+JHAN+HAE+jk",
   "+HIE+WE+HAR+HOE+FI+YN+ELIFI+xwGAN+ah*qktn&nxmqGEORGIAN NAR&GEORGIANmqAEN+HARDuh+LABIALuh",
   "&jiCHOSEONGls+SSANGKIYEOK+NIEUN+xb+SSANGTIKEUT+RIEUL+MIEUM+PIEUP+SSANGPIEUP+SIOS+SSANGSIOS",
   "+IEUNG+CIEUC+SSANGCIEUC+dl+lp+wr+qv+HIEUH+NIEUN-KIYEOK+SSANGNIEUN+NIEUN-TIKEUT+NIEUN-PIEUP",
   "+TIKEUT-KIYEOK+RIEUL-NIEUN+SSANGRIEUL+RIEUL-HIEUH+KAPYEOUNRIEUL+MIEUM-PIEUP+KAPYEOUNMIEUM",
   "+PIEUP-KIYEOK+PIEUP-NIEUN+PIEUP-TIKEUT+PIEUP-SIOS+PIEUP-SIOS-KIYEOK+PIEUP-SIOS-TIKEUT",
   "+PIEUP-SIOS-PIEUP+PIEUP-SSANGSIOS+PIEUP-SIOS-CIEUC+PIEUP-CIEUC+PIEUP-CHIEUCH+PIEUP-THIEUTH",
   "+PIEUP-PHIEUPH+KAPYEOUNPIEUP+KAPYEOUNSSANGPIEUP+SIOS-KIYEOK+SIOS-NIEUN+SIOS-TIKEUT+SIOS-RIEUL",
   "+SIOS-MIEUM+SIOS-PIEUP+SIOS-PIEUP-KIYEOK+SIOS-SSANGSIOS+SIOS-IEUNG+SIOS-CIEUC+SIOS-CHIEUCH",
   "+SIOS-KHIEUKH+SIOS-THIEUTH+SIOS-PHIEUPH+SIOS-HIEUH+CHITUEUMSIOS+CHITUEUMSSANGSIOS",
   "+CEONGCHIEUMSIOS+CEONGCHIEUMSSANGSIOS+PANSIOS+IEUNG-KIYEOK+IEUNG-TIKEUT+IEUNG-MIEUM",
   "+IEUNG-PIEUP+IEUNG-SIOS+IEUNG-PANSIOS+SSANGIEUNG+IEUNG-CIEUC+IEUNG-CHIEUCH+IEUNG-THIEUTH",
   "+IEUNG-PHIEUPH+YESIEUNG+CIEUC-IEUNG+CHITUEUMCIEUC+CHITUEUMSSANGCIEUC+CEONGCHIEUMCIEUC",
   "+CEONGCHIEUMSSANGCIEUC+CHIEUCH-KHIEUKH+CHIEUCH-HIEUH+CHITUEUMCHIEUCH+CEONGCHIEUMCHIEUCH",
   "+PHIEUPH-PIEUP+KAPYEOUNPHIEUPH+SSANGHIEUH+YEORINHIEUH+KIYEOK-TIKEUT+NIEUN-SIOS+NIEUN-CIEUC",
   "+NIEUN-HIEUH+TIKEUT-RIEUL+hp*JUNGSEONGhp+A+AE+zj+YAE+EO+E+YEO+YE+O+yx+WAE+pm+YO+U+WEO+WE+WI+zp",
   "+EU+YI+I+A-O+A-U+YA-O+YA-YO+EO-O+EO-U+EO-EU+YEO-O+YEO-U+O-EO+O-E+O-YE+O-O+O-U+YO-YA+YO-YAE",
   "+YO-YEO+YO-O+YO-I+U-A+U-AE+U-EO-EU+U-YE+U-U+YU-A+YU-EO+YU-E+YU-YEO+YU-YE+YU-U+YU-I+EU-U+EU-EU",
   "+YI-U+I-A+I-YA+I-O+I-U+I-EU+I-ARAEA+ARAEA+ARAEA-EO+ARAEA-U+ARAEA-I+SSANGARAEA+A-EU+YA-U+YEO-YA",
   "+O-YA+O-YAE*JONGSEONGls+SSANGKIYEOK+KIYEOK-SIOS+NIEUN+NIEUN-CIEUC+NIEUN-HIEUH+xb+RIEUL+sf",
   "+RIEUL-MIEUM+RIEUL-PIEUP+RIEUL-SIOS+RIEUL-THIEUTH+RIEUL-PHIEUPH+RIEUL-HIEUH+MIEUM+PIEUP",
   "+PIEUP-SIOS+SIOS+SSANGSIOS+IEUNG+CIEUC+dl+lp+wr+qv+HIEUH+KIYEOK-RIEUL+KIYEOK-SIOS-KIYEOK",
   "+NIEUN-KIYEOK+NIEUN-TIKEUT+NIEUN-SIOS+NIEUN-PANSIOS+NIEUN-THIEUTH+TIKEUT-KIYEOK+TIKEUT-RIEUL",
   "+RIEUL-KIYEOK-SIOS+RIEUL-NIEUN+RIEUL-TIKEUT+RIEUL-TIKEUT-HIEUH+SSANGRIEUL+RIEUL-MIEUM-KIYEOK",
   "+RIEUL-MIEUM-SIOS+RIEUL-PIEUP-SIOS+RIEUL-PIEUP-HIEUH+RIEUL-KAPYEOUNPIEUP+RIEUL-SSANGSIOS",
   "+RIEUL-PANSIOS+RIEUL-KHIEUKH+RIEUL-YEORINHIEUH+MIEUM-KIYEOK+MIEUM-RIEUL+MIEUM-PIEUP+MIEUM-SIOS",
   "+MIEUM-SSANGSIOS+MIEUM-PANSIOS+MIEUM-CHIEUCH+MIEUM-HIEUH+KAPYEOUNMIEUM+PIEUP-RIEUL",
   "+PIEUP-PHIEUPH+PIEUP-HIEUH+KAPYEOUNPIEUP+SIOS-KIYEOK+SIOS-TIKEUT+SIOS-RIEUL+SIOS-PIEUP+PANSIOS",
   "+IEUNG-KIYEOK+IEUNG-SSANGKIYEOK+SSANGIEUNG+IEUNG-KHIEUKH+YESIEUNG+YESIEUNG-SIOS",
   "+YESIEUNG-PANSIOS+PHIEUPH-PIEUP+KAPYEOUNPHIEUPH+HIEUH-NIEUN+HIEUH-RIEUL+HIEUH-MIEUM",
   "+HIEUH-PIEUP+YEORINHIEUH+KIYEOK-NIEUN+KIYEOK-PIEUP+KIYEOK-CHIEUCH+KIYEOK-KHIEUKH+KIYEOK-HIEUH",
   "+SSANGNIEUN&ETHIOPICvviw+HU+HI+HAA+HEE+jk+HO+HOA+ly+LU+LI+LAA+LEE+LE+LO+LWA+HHA+HHU+HHI+HHAA",
   "+HHEE+HHE+HHO+HHWA+nf+of+MI+MAA+MEE+ME+MO+MWA+SZA+SZU+SZI+SZAA+SZEE+SZE+SZO+SZWA+rv+RU+RI+RAA",
   "+REE+RE+RO+RWA+sx+SU+SI+SAA+SEE+SE+SO+SWA+tr+SHU+SHI+SHAA+SHEE+tx+SHO+SHWA+QA+QU+QI+QAA+QEE+QE",
   "+QO+QOA+QWA^124A+QWI+QWAA+QWEE+QWE^1250+QHA+QHU+QHI+QHAA+QHEE+QHE+QHO^1258+QHWA^125A+QHWI",
   "+QHWAA+QHWEE+QHWE^1260+bm+BU+BI+BAA+BEE+BE+BO+BWA+ym+VU+VI+VAA+VEE+VE+VO+VWA+vx+TU+TI+TAA+TEE",
   "+wf+xe+TWA+cr+CU+CI+CAA+CEE+CE+CO+CWA+XA+XU+XI+XAA+XEE+XE+XO+XOA+XWA^128A+XWI+XWAA+XWEE+XWE",
   "^1290+ok+NU+NI+NAA+NEE+NE+ov+NWA+pj+NYU+NYI+NYAA+NYEE+NYE+NYO+NYWA+iqA,U,I,aa,gg,E,O,yx+le+KU",
   "+KI+KAA+KEE+KE+KO+KOA+KWA^12B2+KWI+KWAA+KWEE+KWE^12B8+KXA+KXU+KXI+KXAA+KXEE+KXE+KXO^12C0+KXWA",
   "^12C2+KXWI+KXWAA+KXWEE+KXWE^12C8+yx+WU+WI+WAA+WEE+WE+WO+WOA+PHARYNGEAL A,U,I,aa,gg,E,O^12D8+zr",
   "+ZU+ZI+ZAA+ZEE+ZE+ZO+ZWA+zy+ZHU+ZHI+ZHAA+ZHEE+ZHE+ZHO+ZHWA+zj+zp+YI+YAA+YEE+YE+YO+YOA+es+DU+DI",
   "+DAA+DEE+DE+DO+DWA+fb+DDU+DDI+DDAA+DDEE+DDE+DDO+DDWA+kz+JU+JI+JAA+JEE+JE+JO+JWA+ig+GU+GI+GAA",
   "+GEE+GE+GO+GOA+GWA^1312+GWI+GWAA+GWEE+GWE^1318+GGA+GGU+GGI+GGAA+GGEE+GGE+GGO+GGWAA+wm+THU+THI",
   "+THAA+THEE+wn+THO+THWA+de+CHU+dk+CHAA+CHEE+dh+CHO+CHWA+qt+PHU+qu+PHAA+PHEE+PHE+PHO+PHWA+xr+TSU",
   "+TSI+TSAA+TSEE+TSE+TSO+TSWA+TZA+TZU+TZI+TZAA+TZEE+TZE+TZO+TZOA+hg+FU+FI+FAA+FEE+FE+FO+FWA+qh",
   "+PU+qw+PAA+PEE+qq+PO+PWA+RYA+MYA+FYA^135D*dvikasywmnnm+ywmnnm+iknm*tinm*WORDSPACE*ifvh*dw*tl",
   "*du*PREFACEdu*rtnm*qktn*fopt+yb+wy+ib+hu+um+to+gi+or*pgwk+ya+wv+hz+hn+up+tq+gm+ot+jy+wkww",
   "^1380*vvSEBATBEIT MWA+MWI+MWEE+MWE+SEBATBEIT BWA+BWI+BWEE+BWE+SEBATBEIT FWA+FWI+FWEE+FWE",
   "+SEBATBEIT PWA+PWI+PWEE+PWE*TONALnmYIZET,DERET,RIKRIK,ucRIKRIK,DIFAT,KENAT,CHIRET,HIDET",
   ",DERET-HIDET,KURT^13A0&CHEROKEEmqA+E+I+O+U+V+ig+le+GE+GI+GO+GU+GV+iw+jk+HI+HO+HU+HV+ly+LE+LI",
   "+LO+LU+LV+nf+ME+MI+MO+of+ok+HNA+NAH+NE+NI+ov+NU+NV+QUA+QUE+QUI+QUO+QUU+QUV+sx+S+SE+SI+SO+SU+SV",
   "+es+vx+DE+wf+DI+TI+DO+DU+DV+DLA+TLA+TLE+TLI+TLO+TLU+TLV+xr+TSE+TSI+TSO+TSU+TSV+yx+WE+WI+WO+WU",
   "+WV+zj+YE+YI+YO+zp+YV+MV^13F8*usmqYE,YI,YO,zp,YV,MV^1400&CANADIAN SYLLABICSjz+E+AAI+I+ke+O+pu",
   "+zipu+cygg,I+A+aa+WE+zcWE+WI+zcWI+WII+zcWII+WO+zcWO+WOO+zcWOO+olWOO+yx+zcyx+WAA+zcWAA+olWAA+ag",
   "+ziW+iqvh+hqaf,ir,ckiysm,xkiysm,sgiysm,sm,fxaf:ucypSTROKES,ntft,ucjwvj,qz,gavz+gq+kf+ps+ar+qq",
   "+PAAI+qw+PII+PO+POO+ziPOO+cyHEE,HI+qh+PAA+PWE+zcPWE+PWI+zcPWI+PWII+zcPWII+PWO+zcPWO+PWOO",
   "+zcPWOO+PWA+zcPWA+PWAA+zcPWAA+ziPWAA+P+zcP+cyH+wf+TAAI+TI+TII+xe+TOO+ziTOO+cyDEE,DI+vx+TAA+TWE",
   "+zcTWE+TWI+zcTWI+TWII+zcTWII+yb+zcyb+TWOO+zcTWOO+TWA+zcTWA+TWAA+zcTWAA+olTWAA+T+TTE+TTI+TTO+xu",
   "+KE+KAAI+KI+KII+KO+KOO+ziKOO+le+KAA+KWE+zcKWE+KWI+zcKWI+KWII+zcKWII+KWO+zcKWO+KWOO+zcKWOO+KWA",
   "+zcKWA+KWAA+zcKWAA+olKWAA+K+KW+SOUTH-SLAVEY KEH,KIH,KOH,KAH+CE+CAAI+CI+CII+CO+COO+ziCOO+cr+CAA",
   "+CWE+zcCWE+CWI+zcCWI+CWII+zcCWII+CWO+zcCWO+CWOO+zcCWOO+CWA+zcCWA+CWAA+zcCWAA+olCWAA+C+tdTH+ME",
   "+MAAI+MI+MII+MO+MOO+ziMOO+nf+MAA+MWE+zcMWE+MWI+zcMWI+MWII+zcMWII+MWO+zcMWO+MWOO+zcMWOO+MWA",
   "+zcMWA+MWAA+zcMWAA+olMWAA+M+zcM+MH+ATHAPASCAN M+tdM+NE+NAAI+NI+NII+ov+NOO+ziNOO+ok+NAA+NWE",
   "+zcNWE+NWA+zcNWA+NWAA+zcNWAA+olNWAA+N+cyNG+NH+LE+LAAI+LI+LII+LO+LOO+ziLOO+ly+LAA+LWE+zcLWE+LWI",
   "+zcLWI+LWII+zcLWII+LWO+zcLWO+LWOO+zcLWOO+LWA+zcLWA+LWAA+zcLWAA+L+zcL+npL+SE+SAAI+SI+SII+SO+SOO",
   "+ziSOO+sx+SAA+SWE+zcSWE+SWI+zcSWI+SWII+zcSWII+SWO+zcSWO+SWOO+zcSWOO+SWA+zcSWA+SWAA+zcSWAA",
   "+olSWAA+S+ATHAPASCAN S+SW+BLACKFOOT S+MOOSE-CREE SK+olSKW,S-W,SPWA,STWA,SKWA,SCWA+tx+SHI+SHII",
   "+SHO+SHOO+tr+SHAA+SHWE+zcSHWE+SHWI+zcSHWI+SHWII+zcSHWII+SHWO+zcSHWO+SHWOO+zcSHWOO+SHWA+zcSHWA",
   "+SHWAA+zcSHWAA+SH+YE+YAAI+YI+YII+YO+YOO+ziYOO+zj+YAA+YWE+zcYWE+YWI+zcYWI+YWII+zcYWII+YWO+zcYWO",
   "+YWOO+zcYWOO+YWA+zcYWA+YWAA+zcYWAA+olYWAA+Y+BIBLE-CREE Y+zcY+tdYI+RE+R-CREE RE+zcLE+RAAI+RI",
   "+RII+RO+ROO+zcLO+rv+RAA+zcly+RWAA+zcRWAA+R+zcR+npR+FE+FAAI+FI+FII+FO+FOO+hg+FAA+FWAA+zcFWAA+F",
   "+wn+N-CREEwn+THI+N-CREE THI+THII+N-CREE THII+THO+THOO+wm+THAA+THWAA+zcTHWAA+TH+TTHE+TTHI+TTHO",
   "+xv+TTH+TYE+TYI+TYO+TYA+NUNAVIKjk,HI,HII,HO,HOO,iw,HAA,H+NUNAVUT H+HK+QAAI+QI+QII+QO+QOO+QA",
   "+QAA+Q+TLHE+TLHI+TLHO+TLHA+zcRE,RI,RO,rv+NGAAI+NGI+NGII+NGO+NGOO+oq+NGAA+NG+NNG+tdtx,SHI,SHO",
   ",tr+WOODS-CREEwn,THI,THO,wm,TH+LHI+LHII+LHO+LHOO+LHA+LHAA+LH+TH-CREEwn,THI,THII,THO,THOO,wm",
   ",THAA,TH+AIVILIK B+BLACKFOOT E,I,O,A,WE,WI,WO,yx,NE,NI,ov,ok,KE,KI,KO,le+tdjk,HI,HO,iw+cyGHU",
   ",GHO,in,GHEE,GHI,il,RU,RO,RE,REE,RI,rv,WU,WO,WE,WEE,WI,yx,HWU,HWO,HWE,HWEE,HWI,HWA,THU,THO,wn",
   ",THEE,THI,wm,TTU,TTO,TTE,TTEE,TTI,xu,PU,PO,qq,PEE,qw,qh,P,GU,GO,GE,GEE,GI,ig,KHU,KHO,KHE,KHEE",
   ",KHI,ln,KKU,KKO,KKE,KKEE,KKI,KKA,KK,NU,ov,NE,NEE,NI,ok,of,MO,ME,MEE,MI,nf,zp,YO,YE,YEE,YI,zj",
   ",JU+tdJU+cyJO,JE,JEE,JI+tdJI+cykz,JJU,JJO,JJE,JJEE,JJI,JJA,LU,LO,LE,LEE,LI,ly,DLU,DLO,DLE,DLEE",
   ",DLI,DLA,LHU,LHO,LHE,LHEE,LHI,LHA,TLHU,TLHO,TLHE,TLHEE,TLHI,TLHA,TLU,TLO,TLE,TLEE,TLI,TLA,ZU",
   ",ZO,ZE,ZEE,ZI,zr,Z,klZ,DZU,DZO,DZE,DZEE,DZI,DZA,SU,SO,SE,SEE,SI,sx,SHU,SHO,tx,SHEE,SHI,tr,SH",
   ",TSU,TSO,TSE,TSEE,TSI,xr,CHU,CHO,dh,CHEE,dk,de,TTSU,TTSO,TTSE,TTSEE,TTSI,TTSA+dkuh+ifvh+QAI",
   "+NGAI+NNGI+NNGII+NNGO+NNGOO+NNGA+NNGAA+WOODS-CREE THWEE,THWI,THWII,THWO,THWOO,THWA,THWAA,hqTH",
   "+BLACKFOOT W&OGHAMuynm*mqBEITH+LUIS+FEARN+SAIL+NION+UATH+DAIR+TINNE+COLL+CEIRT+MUIN+GORT",
   "+NGEADAL+STRAIF+RUIS+AILM+ONN+UR+EADHADH+IODHADH+EABHADH+py+UILLEANN+IFIN+EAMHANCHOLL+PEITH",
   "*FEATHERnm*sdFEATHERnm^16A0&RUNICmqFEHU FEOH FE F+V+URUZ UR U+YR+Y+W+THURISAZ THURS THORN+ETH",
   "+ANSUZ A+OS O+AC A+AESC+LONG-BRANCH-OSS O+SHORT-TWIG-OSS O+O+pm+ps+RAIDO RAD REID R+KAUNA+CEN",
   "+KAUN K+G+ENG+GEBO GYFU G+ij+WUNJO WYNN W+HAGLAZ H+HAEGL H+LONG-BRANCH-HAGALL H",
   "+SHORT-TWIG-HAGALL H+NAUDIZ NYD NAUD N+SHORT-TWIG-NAUD N+DOTTED-N+ISAZ IS ISS I+E+JERAN J+GER",
   "+LONG-BRANCH-AR AE+SHORT-TWIG-AR A+IWAZ EOH+PERTHO PEORTH P+ALGIZ EOLHX+SOWILO S",
   "+SIGEL LONG-BRANCH-SOL S+SHORT-TWIG-SOL S+C+Z+TIWAZ TIR TYR T+SHORT-TWIG-TYR T+D",
   "+BERKANAN BEORC BJARKAN B+SHORT-TWIG-BJARKAN B+DOTTED-P+OPEN-P+EHWAZ EH E+MANNAZnlM",
   "+LONG-BRANCH-MADR M+SHORT-TWIG-MADR M+LAUKAZ LAGU LOGR L+DOTTED-L+INGWAZ+ING+DAGAZ DAEG D",
   "+OTHALAN ETHEL O+EAR+IOR+CWEORTH+CALC+CEALC+STAN+LONG-BRANCH-YR+SHORT-TWIG-YR+ICELANDIC-YR+Q+X",
   "*ukrl*ogrl*eirl*ARLAUGvw*TVIMADURvw*BELGTHORvw*mqK+SH+pu+FRANKS CASKET OS:IS:EH:AC:AESC",
   "^1700&TAGALOGmqA+I+U+le+ig+oq+vx+es+ok+qh+bm+nf+zj+rv+ly+yx+sx+iw*ywuhI,U*uhys+PAMUDPOD",
   "^171F*mqbbrv&HANUNOOmqA+I+U+le+ig+oq+vx+es+ok+qh+bm+nf+zj+rv+ly+yx+sx+iw*ywuhI,U*uhPAMUDPOD",
   "&PHILIPPINEukrl*fxrl^1740&BUHIDmqA+I+U+le+ig+oq+vx+es+ok+qh+bm+nf+zj+rv+ly+yx+sx+iw*ywuhI,U",
   "^1760&TAGBANWAmqA+I+U+le+ig+oq+vx+es+ok+qh+bm+nf+zj^176E+ly+yx+sx^1772*ywuhI,U^1780&KHMERmqle",
   "+ln+KO+KHO+NGO+cr+de+CO+CHO+NYO+es+xv+DO+TTHO+NNO+vx+wm+xe+THO+ov+bm+qt+PO+PHO+MO+YO+RO+LO+VO",
   "+tr+SSO+sx+iw+ly+QA*kgywQAQ,QAA,QI,QII,QU,QUK,QUU,QUUV,RY,RYY,LY,LYY,QE,QAI,QOO TYPEpt;yb,QAU",
   "*ywINHERENT AQ,aa+uhaa,I,ke,Y,YY,U,yl,UA,pm,zj,IE,E,AE,ag,pu,bj*uhNIKAHIT+REAHMUK",
   "+YUUKALEAPINTU+MUUSIKATOAN+TRIISAP+BANTOC+ROBAT+TOANDAKHIAT+KAKABAT+AHSDA+SAMYOK SANNYA+VIRIAM",
   "+COENG+BATHAMASAT+KHAN+BARIYOOSAN+CAMNUC PII KUUH+LEK TOO+BEYYAL+PHNAEK MUAN+KOOMUUT",
   "*CURRENCYvwRIEL*uhAVAKRAHASANYA+ATTHACAN^17E0*fozw+pt+yb+wy+ib+hu+um+to+gi+or",
   "^17F0*vwLEK ATTAK SON:MUOY:PII:BEI:BUON:PRAM:PRAM-MUOY:PRAM-PII:PRAM-BEI:PRAM-BUON",
   "^1800&MONGOLIANce*gp*dw*ifvh*du*ibfv*TODOuujz*SIBEvvBOUNDARYnn*MANCHUdw+ifvh*NIRUGU",
   "*FREE VARIATION SELECTORpt:yb:wy*ywtn*FREE VARIATION SELECTORib*fozw+pt+yb+wy+ib+hu+um+to+gi",
   "+or^1820*mqA+E+I+O+U+pm+UE+gg+ok+ANG+bm+qh+QA+ig+nf+ly+sx+tr+vx+es+de+kz+zj+rv+yx+hg+le+ln+xr",
   "+zr+HAA+ZRA+LHA+ZHI+dk+TODOmyywuh,E,I,O,U,pm,UE,ANG,bm,qh,QA,ig,nf,vx,es,de,kz,xr,zj,yx,le,GAA",
   ",HAA,JIA,NIA,DZA+SIBE E,I,IY,UE,U,ANG,le,ig,iw,qh,tr,vx,es,kz,hg,GAA,HAA,xr,zr,RAA,de,zy",
   "+MANCHU I,le,rv,hg,zy+dezeybfv^1880+ALI GALIawpt:ytpt:DAMARU:UBADAMA:ksUBADAMA:BALUDA:wyBALUDA",
   ":A:I:le:oq:cr:xu:xv:fb:ou:vx:es:qh:qt:ve:zy:zr:AH+TODO ALI GALIvx;zy+MANCHU ALI GALIil;oq;cr",
   ";lc;xu;fc;vx;fg;ve;CYA;zy;zr+ALI GALIiyU;zj+MANCHU ALI GALIcd+ALI GALI DAGALGA",
   "+MANCHU ALI GALI LHA^18B0&CANADIAN SYLLABICS OY+AY+AAY+WAY+POY+PAY+PWOY+TAY+KAY+KWAY+MAY+NOY",
   "+NAY+LAY+SOY+SAY+SHOY+SHAY+SHWOY+YOY+YAY+RAY+NWI+OJIBWAY NWI+NWII+OJIBWAY NWII+NWO+OJIBWAY NWO",
   "+NWOO+OJIBWAY NWOO+RWEE+RWI+RWII+RWO+RWOO+RWA+OJIBWAY P,T,K,C,M,N,S,SH+EASTERN W+WESTERN W",
   "+hqussm,rwft+R-CREE RWE+zcLOO,LAA+THWE+THWA+TTHWE+TTHOO+TTHAA+TLHWE+TLHOO+tdSHWE,SHOO,HOO",
   "+cyGWU,DENE GEE,GAA,GWA+tdJUU+cyJWA+BEAVER DENE L:R+cyDENTAL S^1900&LIMBU VOWEL-CARRIERmq*mqle",
   "+ln+ig+il+oq+cr+de+kz+lc+YAN+vx+wm+es+fg+ok+qh+qt+bm+cd+nf+zj+rv+ly+yx+tr+ve+sx+iw+GYAN+TRA",
   "^1920*ywuhA,I,U,gg,ag,pu,bj,E,O*vlmqzj,rv,yx^1930*usmqle,oq,aw,vx,ok,qh,nf,rv,ly*uhMUKPHRENG",
   "+KEMPHRENG+SA-I^1940+LOO^1944*hbnm*rtnm*fozw+pt+yb+wy+ib+hu+um+to+gi+or&TAI LEmqle,XA,oq,xr,sx",
   ",zj,vx,wm,ly,qh,qt,nf,hg,ym,iw,QA,ln,xs,ok,A,I,gg,EH,U,pu,O,UE,E,AUE,ag^1970,xg,xh,TONE-4,xi",
   ",TONE-6^1980&NEW TAI LUEmqjrQA:nbQA:jrle;XA;oq:nble;XA;oq:jrxr;sx;zj:nbxr;sx;zj:jrvx;wm;ok",
   ":nbvx;wm;ok:jrqh;qt;nf:nbqh;qt;nf:jrhg;ym;ly:nbhg;ym;ly:jriw;es;bm:nbiw;es;bm:jrKVA;XVA:nbKVA",
   ";XVA:jrSUA:nbSUA^19B0,ywuhywSHORTENER;aa;ke;U;yl;E;AE;O;OA;UE;AY;AAY;UY;OY;OAY;UEY;IY,mqhqV;NG",
   ";N;M;K;D;B,xfMARK-1:MARK-2^19D0,fozw:pt:yb:wy:ib:hu:um:to:gi:or,THAMfopt^19DE,uhLAE:LAEV",
   "&KHMERvwPATHAMASAT+MUOYlv+PIIlv+BEIlv+BUONlv+PRAMlv+PRAM-MUOYlv+PRAM-PIIlv+PRAM-BEIlv",
   "+PRAM-BUONlv+DAPlv+DAP-MUOYlv+DAP-PIIlv+DAP-BEIlv+DAP-BUONlv+DAP-PRAMlv+TUTEYASAT+MUOY ROC",
   "+PII ROC+BEI ROC+BUON ROC+PRAM ROC+PRAM-MUOY ROC+PRAM-PII ROC+PRAM-BEI ROC+PRAM-BUON ROC",
   "+DAP ROC+DAP-MUOY ROC+DAP-PII ROC+DAP-BEI ROC+DAP-BUON ROC+DAP-PRAM ROC&BUGINESEmqle+ig+oq",
   "+NGKA+qh+bm+nf+MPA+vx+es+ok+NRA+cr+kz+pj+NYCA+zj+rv+ly+ym+sx+A+iw*ywuhI,U,E,O,AE^1A1E*PALLAWA",
   "*grpnti&TAI THAMmqjrle:ln:KXA,nble:KXA:ln,oq,jrcr:de,nbcr:sx:de,pj,RATA,jrRATHA,es,nbRATHA",
   ",RANA,jrvx:wm,nbvx:wm,ok,bm,jrqh:qt:hg,nbqh:hg:qt,nf,nbzj,jrzj,rv,RUE,ly,LUE,yx,jrtr:ve:sx:iw",
   ",mw,A,nbiw,I,ke,U,yl,gg,pu,LAE,GREATsx+eauhnprv;ly:lyTANG LAI+uhMAI KANG LAI+eauhhqoq:nbqh",
   ":jrRATHApynbqh:nf:bm:sx^1A60+uhSAKOT+ywuhA:MAI SAT:aa:TALLaa:I:ke:UE:UUE:U:yl:O:OAbx:OY:E:AE",
   ":pu:ag:THAMag:OAad+uhMAI KANG,TONE-1,xg,KHUENxh:TONE-4:xi,rvHAAM,MAI SAM,KHUEN-LUE KARAN",
   "^1A7F+dvemft+HORAfozw:pt:yb:wy:ib:hu:um:to:gi:or^1A90+THAMfozw:pt:yb:wy:ib:hu:um:to:gi:or",
   "^1AA0+uhWIANG,WIANGWAAK,SAWAN,KEOW,HOY,DOKMAI,sdspRANA,MAI YAMOK,KAAN,KAANKUU,SATKAAN",
   ",SATKAANKUU,HANG,CAANG^1AB0&dvDOUBLEDdpae*DIAERESIS-RING*kj*gcbd*xqft*X-Xbx*WIGGLYmtbx*pvnmbx",
   "*fxpvnmbx*msdbvjbx*STRONGdbvjbx*PARENTHESESad*fxPARENTHESESad*PARENTHESESbx+qe*mfusmqWbx:xwWbx",
   "*mhqmadmh*sgqmadsg*mhqmbxmh*sgqmbxsg*vcBRACKETSad*pguhad*ksfxARCHad*qzuhad*fxqzuhad:bx*xqafae",
   "*mfusmqknG;R;T^1B00&BALINESEuhULU RICEM,ct+CECEK+SURANG+BISAH*mqAKARA,wh+IKARA,wh+UKARA,wh",
   "+rvREPA:wh+lyLENGA:wh+EKARA+AIKARA+OKARA,wh+le,nj+ig,GORA+oq+cr,LACA+kz,JERA+pj+vxLATIK,oinj",
   "+esoiALPAPRANA:nj+okRAMBAT+vx,TAWA+es,MADU+ok+qh,KAPAL+bm,KEMBANG+nf+zj+rv+ly+yx+sxSAGA,SAPA",
   "+sx+iw*uhREREKAN*ywuhwh,ULU:SARI,SUKU:ILUT,rvREPA;wh,lyLENGA;wh,TALING:REPA:wh:REPAwh,PEPET:wh",
   "*ADEG ADEG*mqlfSASAK+KHOT SASAK+TZIR SASAK+EF SASAK+VE SASAK+ZAL SASAK+ASYURA SASAK+bbJNYA",
   "^1B50*fozw+pt+yb+wy+ib+hu+um+to+gi+or*PANTI*PAMADA*WINDU*CARIK PAMUNGKAH+SIKI+PAREREN*PAMENENG",
   "*ojvwDONG,DENG,DUNG,DANG:SURANG,DING,DAENG,DEUNG,DAING,DANG GEDE,dvTEGEH:ENDEP:KEMPUL:KEMPLI",
   ":JEGOGAN:KEMPULzeJEGOGAN:KEMPLIzeJEGOGAN:BENDE:GONG,RIGHT-HANDpvDUG;DAG:dsTUK;TAK",
   ",LEFT-HANDpvPANG;PUNG:dsPLAK;PLUK:pvPING*PANTI LANTANG*PAMADA LANTANG^1B80&SUNDANESEuhPANYECEK",
   "+PANGLAYAR+PANGWISAD*mqA+I+U+AE+O+E+EU+le+QA+ig+oq+cr+kz+zr+pj+vx+es+ok+qh+hg+ym+bm+nf+zj+rv",
   "+ly+yx+sx+XA+iw*eauhPAMINGKAL,PANYAKRA,PANYIKU*ywuhPANGHULU,PANYUKU,PANAELAENG,PANOLONG",
   ",PAMEPET,PANEULEUNG*uhPAMAAEH+ys*eauhPASANGANnf:yx*mqln+SYA*fozw+pt+yb+wy+ib+hu+um+to+gi+or*bk",
   "*mqREU+LEU+cd+hqK,M&BATAKmqA+uiA+iw+uiiw+MANDAILINGiw+bm+KARObm+qh+uiqh+ok+MANDAILINGok+yx",
   "+uiyx+PAKPAKyx+ig+uiig+kz+es+rv+uirv+nf+uinf+SOUTHERNvx+NORTHERNvx+sx+uisx+MANDAILINGsx+zj",
   "+uizj+oq+ly+uily+pj+cr+NDA+MBA+I+U*uhTOMPI*ywuhE,PAKPAK E,gg,I,KARO I,O,KARO O,U:hxuisx*eauhNG",
   ",H*PANGOLAT*PANONGONAN^1BFC*vwBINDUokMETEK,PINARBORAS,JUDUL,PANGOLAT&LEPCHAmqle+KLA+ln+ig+GLA",
   "+oq+cr+de+kz+pj+vx+wm+es+ok+qh+PLA+qt+hg+FLA+bm+BLA+nf+MLA+xr+xs+DZA+zj+rv+ly+iw+HLA+ym+sx+tr",
   "+yx+A*vlmqzj,rv*ywuhaa,I,O,pu,U,yl,E*eauhK,M,L,N,P,R,T,NYIN-DO,KANG*uhRAN+pf^1C3B*rlTA-ROL",
   "+NYET THYOOM TA-ROL+CER-WA+TSHOOK CER-WA+TSHOOK*fozw+pt+yb+wy+ib+hu+um+to+gi+or^1C4D*mqxu+xv",
   "+fb&OL CHIKIfozw,pt,yb,wy,ib,hu,um,to,gi,or+mqly,AT,AG,ANG,AL,LAA,AAK,AAJ,AAM,AAW,LI,IS,IH,INY",
   ",IR,LU,UC,UD,UNN,UY,LE,EP,EDD,gq,ERR,LO,OTT,OB,OV,OH+ofTTUDDAG+GAAHLAA TTUDDAAG",
   "+MU-GAAHLAA TTUDDAAG+RELAA+PHAARKAA+AHAD+rlMUCAAD,fxMUCAAD&erusmqstVE,LONG-LEGGED DE,NARROW O",
   ",WIDE ES,TALLwf,THREE-LEGGEDwf,TALL HARDuh:YAT,UNBLENDED UK^1C90&GEORGIAN MTAVRULIcvmqar:BAN",
   ":GAN:DON:gq:VIN:ZEN:TAN:kf:KAN:LAS:nl:NAR:ps:PAR:ZHAR:RAE:SAN:TAR:UN:PHAR:KHAR:GHAN:QAR:ub",
   ":CHIN:CAN:JIL:CIL:CHAR:XAN:JHAN:HAE:jk:HIE:WE:HAR:HOE:FI:YN:ELIFI:xwGAN:ah^1CBD:AEN:HARDuh",
   ":LABIALuh&SUNDANESErlBINDU SURYA,PANGLONG,PURNAMA,CAKRA,LEU SATANGA,leSATANGA,esSATANGA",
   ",bmSATANGA^1CD0&VEDICxfKARSHANA+SHARA+PRENKHA*uhNIHSHVASA+YAJURVEDIC MIDLINEvt",
   "*xfYAJURVEDIC AGGRAVATEDkgvt,kgvt,KATHAKAkgvt+ctbx+YAJURVEDIC KATHAKAkgvtSCHROEDER+fxvt+xqvt",
   "+KATHAKA ANUDATTA+ftbx+ybfvbx+wyfvbx+RIGVEDIC KASHMIRIkgvt+ATHARVAVEDICkgvt*uhytvt,UDATTA",
   "+sdytUDATTA+ytANUDATTA+sdytANUDATTA+ytUDATTAzewb,ANUDATTAzewb+awANTARGOMUKHA,BAHIRGOMUKHA",
   ",VAMAGOMUKHA:zewb+TIRYAK+HEXIFORMmyaw+myaw+RTHANGmyaw+awUBHAYATO MUKHA+ARDHAVISARGA",
   "+spARDHAVISARGA*xfctad*uhld+yh+ATIKRAMA*xfsmad+fxsmad*uhfxawANTARGOMUKHA^1D00&mfmquscvA:AE",
   "*usmqxwAE*mquscvbvB:C:D:ETH:E*usmqxwpvE:I*mquscvJ:K:Lzevj:M:sdN:O:pvO*usmqufO:pvO:Ozevj,xwpm",
   "*mquscvOU*usmqxkiyO,ckiyO*mquscvP:sdR:xwR:T:U*usmqufU:DIAERESIZED U:xwM*mquscvV:W:Z:EZH",
   "+yvLARYNGEAL SPIRANT+ah&itmquscvih:mb:qw:se:rj&ermquscvEL&nxmqcvA,AE,B,bvB,D,E,sdE,G,H,I,J,K,L",
   ",M,N,sdN,O,OU,P,R,T,U,W+usA,xwA,an,xwAE,B,D,E,te,pvE,xwpvE,G,xwI,K,M,ENG,O,pvO,xkiyO,ckiyO,P,T",
   ",U,ufU,xwM,V,ah,ca,itih,fe,itqu,dk&mfvmusmqI:R:U:V&itvmusmqca:ih:se:qu:dk&mfusmqUE,Bzentxc",
   ",Dzentxc,Fzentxc,Mzentxc,Nzentxc,Pzentxc,Rzentxc;htasntxc,Szentxc,Tzentxc,Zzentxc,xwG&nxmqergq",
   "&mfusmqknG,THzeSTRIKETHROUGH+cvmqIzevj+mqktzevj,Pzevj+cvmqUzevj+mqyjzevj,Bzeqjjv,Dzeqjjv",
   ",Fzeqjjv,Gzeqjjv,Kzeqjjv,Lzeqjjv,Mzeqjjv,Nzeqjjv,Pzeqjjv,Rzeqjjv,Szeqjjv,gzzeqjjv,Vzeqjjv",
   ",Xzeqjjv,Zzeqjjv,Azesbjv,anzesbjv,Dzejvaswb,Ezesbjv,pvEzesbjv,sdpvEzesbjv,tezesbjv,Izesbjv",
   ",pvOzesbjv,gzzesbjv,Uzesbjv,EZHzesbjv&nxmqusxwan,C:zeen,ETH,sdpvE,F,fuJzevj,tgG,xwH,Izevj,kt",
   ",cvI;zevj,Jzeek,Lzesbjv;qjjv,cvL,Mzejv,xwMzemymm,Nzemhjv;sbjv,cvN,bvO,qu,Szejv,gz,Tzeqjjv,Ubt",
   ",yj,cvU,Vzejv,xwV,Z:zesbjv;en,EZH,wq&dvfwirae+afae*SNAKEbx*SUSPENSIONnm*MACRON-ACUTE",
   "*GRAVE-MACRON*MACRON-GRAVE*ACUTE-MACRON*GRAVE-ACUTE-GRAVE*ACUTE-GRAVE-ACUTE*mfusmqRbx",
   "*BREVE-MACRON*MACRON-BREVE*fxdpad*poad*zzbx*ISbx*URad*USad*mfusmqFLATTENEDpvAad:AE:AO:AV:Ccz",
   ":knD:ETH:G+mquscvG+usmqK:L+mquscvL;M+usmqN+mquscvN;R+usmqR ROTUNDA:S:myS:Z:an:B:ca:te:F",
   ":Lzefxntxc:Ozemsdbvj:P:gz:Uzemsdbvj:W:Azefh:Ozefh:Uzefh*yfvzad*KAVYKAadsg,mh*ftadmh",
   "*WIDEksBRIDGEbx*ftbxmh*DELETIONnm*fxkscnbx*alguxebx*mhbead*sgbeasgabebx&mfcvmqAzesmbx",
   "*usmqAzesmbx*cvmqBzeftad*usmqBzeftad*cvmqBzeftbx*usmqBzeftbx*cvmqBzemtbx*usmqBzemtbx",
   "*cvmqCzeczasaf*usmqCzeczasaf*cvmqDzeftad*usmqDzeftad*cvmqDzeftbx*usmqDzeftbx*cvmqDzemtbx",
   "*usmqDzemtbx*cvmqDzecz*usmqDzecz*cvmqDzedpbx*usmqDzedpbx*cvmqEzengasir*usmqEzengasir",
   "*cvmqEzengasaf*usmqEzengasaf*cvmqEzedpbx*usmqEzedpbx*cvmqEzexcbx*usmqEzexcbx*cvmqEzeczascn",
   "*usmqEzeczascn*cvmqFzeftad*usmqFzeftad*cvmqGzeng*usmqGzeng*cvmqHzeftad*usmqHzeftad*cvmqHzeftbx",
   "*usmqHzeftbx*cvmqHzefh*usmqHzefh*cvmqHzecz*usmqHzecz*cvmqHzecnbx*usmqHzecnbx*cvmqIzexcbx",
   "*usmqIzexcbx*cvmqIzefhasaf*usmqIzefhasaf*cvmqKzeaf*usmqKzeaf*cvmqKzeftbx*usmqKzeftbx",
   "*cvmqKzemtbx*usmqKzemtbx*cvmqLzeftbx*usmqLzeftbx*cvmqLzeftbxasng*usmqLzeftbxasng*cvmqLzemtbx",
   "*usmqLzemtbx*cvmqLzedpbx*usmqLzedpbx*cvmqMzeaf*usmqMzeaf*cvmqMzeftad*usmqMzeftad*cvmqMzeftbx",
   "*usmqMzeftbx*cvmqNzeftad*usmqNzeftad*cvmqNzeftbx*usmqNzeftbx*cvmqNzemtbx*usmqNzemtbx",
   "*cvmqNzedpbx*usmqNzedpbx*cvmqOzexcasaf*usmqOzexcasaf*cvmqOzexcasfh*usmqOzexcasfh*cvmqOzengasir",
   "*usmqOzengasir*cvmqOzengasaf*usmqOzengasaf*cvmqPzeaf*usmqPzeaf*cvmqPzeftad*usmqPzeftad",
   "*cvmqRzeftad*usmqRzeftad*cvmqRzeftbx*usmqRzeftbx*cvmqRzeftbxasng*usmqRzeftbxasng*cvmqRzemtbx",
   "*usmqRzemtbx*cvmqSzeftad*usmqSzeftad*cvmqSzeftbx*usmqSzeftbx*cvmqSzeafasftad*usmqSzeafasftad",
   "*cvmqSzecxasftad*usmqSzecxasftad*cvmqSzeftbxasftad*usmqSzeftbxasftad*cvmqTzeftad*usmqTzeftad",
   "*cvmqTzeftbx*usmqTzeftbx*cvmqTzemtbx*usmqTzemtbx*cvmqTzedpbx*usmqTzedpbx*cvmqUzefhbx",
   "*usmqUzefhbx*cvmqUzexcbx*usmqUzexcbx*cvmqUzedpbx*usmqUzedpbx*cvmqUzexcasaf*usmqUzexcasaf",
   "*cvmqUzengasfh*usmqUzengasfh*cvmqVzexc*usmqVzexc*cvmqVzeftbx*usmqVzeftbx*cvmqWzeir*usmqWzeir",
   "*cvmqWzeaf*usmqWzeaf*cvmqWzefh*usmqWzefh*cvmqWzeftad*usmqWzeftad*cvmqWzeftbx*usmqWzeftbx",
   "*cvmqXzeftad*usmqXzeftad*cvmqXzefh*usmqXzefh*cvmqYzeftad*usmqYzeftad*cvmqZzedp*usmqZzedp",
   "*cvmqZzeftbx*usmqZzeftbx*cvmqZzemtbx*usmqZzemtbx,Hzemtbx,Tzefh,Wzesmad,Yzesmad,Azesgiysm",
   ",mySzeftad<fivj<jrvj*cvmqSHARP S*usmqfe*cvmqAzeftbx*usmqAzeftbx*cvmqAzejvad*usmqAzejvad",
   "*cvmqAzedpasaf*usmqAzedpasaf*cvmqAzedpasir*usmqAzedpasir*cvmqAzedpasjvad*usmqAzedpasjvad",
   "*cvmqAzedpasxc*usmqAzedpasxc*cvmqAzedpasftbx*usmqAzedpasftbx*cvmqAzecnasaf*usmqAzecnasaf",
   "*cvmqAzecnasir*usmqAzecnasir*cvmqAzecnasjvad*usmqAzecnasjvad*cvmqAzecnasxc*usmqAzecnasxc",
   "*cvmqAzecnasftbx*usmqAzecnasftbx*cvmqEzeftbx*usmqEzeftbx*cvmqEzejvad*usmqEzejvad*cvmqEzexc",
   "*usmqEzexc*cvmqEzedpasaf*usmqEzedpasaf*cvmqEzedpasir*usmqEzedpasir*cvmqEzedpasjvad",
   "*usmqEzedpasjvad*cvmqEzedpasxc*usmqEzedpasxc*cvmqEzedpasftbx*usmqEzedpasftbx*cvmqIzejvad",
   "*usmqIzejvad*cvmqIzeftbx*usmqIzeftbx*cvmqOzeftbx*usmqOzeftbx*cvmqOzejvad*usmqOzejvad",
   "*cvmqOzedpasaf*usmqOzedpasaf*cvmqOzedpasir*usmqOzedpasir*cvmqOzedpasjvad*usmqOzedpasjvad",
   "*cvmqOzedpasxc*usmqOzedpasxc*cvmqOzedpasftbx*usmqOzedpasftbx*cvmqOzejxasaf*usmqOzejxasaf",
   "*cvmqOzejxasir*usmqOzejxasir*cvmqOzejxasjvad*usmqOzejxasjvad*cvmqOzejxasxc*usmqOzejxasxc",
   "*cvmqOzejxasftbx*usmqOzejxasftbx*cvmqUzeftbx*usmqUzeftbx*cvmqUzejvad*usmqUzejvad*cvmqUzejxasaf",
   "*usmqUzejxasaf*cvmqUzejxasir*usmqUzejxasir*cvmqUzejxasjvad*usmqUzejxasjvad*cvmqUzejxasxc",
   "*usmqUzejxasxc*cvmqUzejxasftbx*usmqUzejxasftbx*cvmqYzeir*usmqYzeir*cvmqYzeftbx*usmqYzeftbx",
   "*cvmqYzejvad*usmqYzejvad*cvmqYzexc*usmqYzexc*cvmqnumv*usmqnumv*cvmqnuV*usmqnuV*cvmqYzena",
   "*usmqYzena&itusmqanzerk;fa;rkasyn;faasyn;rkasqg;faasqg;rkasqr;faasqr*cvmqanzerk;fa;rkasyn",
   ";faasyn;rkasqg;faasqg;rkasqr;faasqr*usmqgtzerk;fa;rkasyn;faasyn;rkasqg;faasqg^1F18*cvmqgtzerk",
   ";fa;rkasyn;faasyn;rkasqg;faasqg^1F20*usmqhazerk;fa;rkasyn;faasyn;rkasqg;faasqg;rkasqr;faasqr",
   "*cvmqhazerk;fa;rkasyn;faasyn;rkasqg;faasqg;rkasqr;faasqr*usmqktzerk;fa;rkasyn;faasyn;rkasqg",
   ";faasqg;rkasqr;faasqr*cvmqktzerk;fa;rkasyn;faasyn;rkasqg;faasqg;rkasqr;faasqr*usmqprzerk;fa",
   ";rkasyn;faasyn;rkasqg;faasqg^1F48*cvmqprzerk;fa;rkasyn;faasyn;rkasqg;faasqg^1F50*usmqyjzerk;fa",
   ";rkasyn;faasyn;rkasqg;faasqg;rkasqr;faasqr^1F59*cvmqyjzefa^1F5B<asyn^1F5D=qg^1F5F=qr",
   "*usmqpqzerk;fa;rkasyn;faasyn;rkasqg;faasqg;rkasqr;faasqr*cvmqpqzerk;fa;rkasyn;faasyn;rkasqg",
   ";faasqg;rkasqr;faasqr*usmqanzeyn;qg,gtzeyn;qg,hazeyn;qg,ktzeyn;qg,przeyn;qg,yjzeyn;qg,pqzeyn",
   ";qg^1F80,anzerkaszo;faaszo;rkasynaszo;faasynaszo;rkasqgaszo;faasqgaszo;rkasqraszo;faasqraszo",
   "*cvmqanzerkasri;faasri;rkasynasri;faasynasri;rkasqgasri;faasqgasri;rkasqrasri;faasqrasri",
   "*usmqhazerkaszo;faaszo;rkasynaszo;faasynaszo;rkasqgaszo;faasqgaszo;rkasqraszo;faasqraszo",
   "*cvmqhazerkasri;faasri;rkasynasri;faasynasri;rkasqgasri;faasqgasri;rkasqrasri;faasqrasri",
   "*usmqpqzerkaszo;faaszo;rkasynaszo;faasynaszo;rkasqgaszo;faasqgaszo;rkasqraszo;faasqraszo",
   "*cvmqpqzerkasri;faasri;rkasynasri;faasynasri;rkasqgasri;faasqgasri;rkasqrasri;faasqrasri",
   "*usmqanzeVRACHY;ng;ynaszo;zo;qgaszo^1FB6;qr<aszo*cvmqanzeVRACHY;ng;yn;qg;ri*KORONIS*ri*rk*qr",
   "*fkasqr*usmqhazeynaszo;zo;qgaszo^1FC6;qr<aszo*cvmqgtzeyn;qg,hazeyn;qg;ri*rkasyn,qg,qr",
   "*usmqktzeVRACHY;ng;fkasyn=qg^1FD6;qr;fkasqr*cvmqktzeVRACHY;ng;yn;qg^1FDD*faasyn,qg,qr",
   "*usmqyjzeVRACHY;ng;fkasyn=qg,sezerk;fa,yjzeqr;fkasqr*cvmqyjzeVRACHY;ng;yn;qg,sezefa*fkasyn,qg",
   "*yn^1FF2*usmqpqzeynaszo;zo;qgaszo^1FF6;qr<aszo*cvmqprzeyn;qg,pqzeyn;qg;ri*qg*fa"]

end Assay.Text.CharacterName
